import Mathlib.Data.List.SplitBy
import Modbus.Silence

/-! Frames by the clock. On a serial line a frame is what comes without a pause, so the
receiver's interval has to be longer than any pause inside a frame, and the silence
between two long enough for the receiver's timer to go off. Here is what the receiver
makes of bytes that arrive at any times, and that the interval derived from the line's
parameters is such an interval. -/
namespace Modbus

open Bytes ByteStream

/-- Bytes on a line, each with the time it arrives. -/
abbrev Timed := List (Nat × UInt8)

namespace Timed

theorem readable (byte : UInt8) : [byte].length ≤ readChunk := by
  simp [readChunk]

def reads (line : Timed) : Reads := line.map fun arrival => ⟨arrival.1, .ok ⟨[arrival.2], readable arrival.2⟩⟩

def lastAt : Nat → Timed → Nat
  | now, [] => now
  | _, (time, _) :: rest => lastAt time rest

def bytes (line : Timed) : Bytes := line.map Prod.snd

def InOrder (now : Nat) (line : Timed) : Prop :=
  (∀ first ∈ line.head?, now ≤ first.1) ∧ line.IsChain fun earlier later => earlier.1 ≤ later.1

instance (now : Nat) (line : Timed) : Decidable (InOrder now line) := inferInstanceAs (Decidable (_ ∧ _))

theorem lastAt_eq {run : Timed} (nonempty : run ≠ []) (now : Nat) : lastAt now run = (run.getLast nonempty).1 := by
  induction run generalizing now with
  | nil => exact absurd rfl nonempty
  | cons first rest ih =>
    cases rest with
    | nil => rfl
    | cons second rest => exact ih (List.cons_ne_nil _ _) first.1

theorem InOrder.tail {now time : Nat} {byte : UInt8} {rest : Timed} (ordered : InOrder now ((time, byte) :: rest)) :
    InOrder time rest :=
  List.isChain_cons.mp ordered.2

theorem InOrder.suffix {now later : Nat} {run rest : Timed} (ordered : InOrder now (run ++ rest))
    (soon : ∀ next ∈ rest.head?, later ≤ next.1) : InOrder later rest :=
  ⟨soon, ordered.2.right_of_append⟩

end Timed

open Timed

/-- What a receiver hands out of bytes without a pause: one frame, or a refusal each time its buffer is
full, and the rest. -/
def outcomes (max : Nat) (held : Bytes) : Bytes → List (Result Bytes)
  | [] => if held = [] then [] else [.ok held]
  | byte :: rest =>
    if held.length + 1 < max then outcomes max (held ++ [byte]) rest
    else .error (.aduTooLarge (held.length + 1) max) :: outcomes max [] rest

/-- The later byte arrives before the receiver's timer, set at the earlier one, has gone off. -/
def follows (timer : Timer) (interval : Nat) (earlier later : Nat × UInt8) : Bool :=
  later.1 ≤ timer.fires (earlier.1 + interval)

/-- The silence after `now` lasts until the receiver's timer has gone off. -/
def Timed.Quiet (timer : Timer) (interval now : Nat) (line : Timed) : Prop :=
  ∀ next ∈ line.head?, timer.fires (now + interval) < next.1

namespace Receive

def listening (timer : Timer) (now : Nat) (line : Timed) (held : Bytes) : Link :=
  ⟨⟨now, reads line, none, timer⟩, held⟩

variable {timer : Timer} {max interval now time : Nat} {byte : UInt8} {held : Bytes} {rest : Timed}

theorem readUntilSilence_gathers (room : held.length < max)
    (begun : held ≠ [] → time ≤ timer.fires (now + interval)) (waiting : now ≤ time) :
    readUntilSilence max interval none (listening timer now ((time, byte) :: rest) held) =
      readUntilSilence max interval none (listening timer time rest (held ++ [byte])) := by
  obtain ⟨pending, turned, data, waits⟩ := silenceTurn_waits interval room
  have reads_first : race timer now (some time) pending.timer none = (.read, time) := by
    rw [waits, race, Nat.max_eq_right waiting]
    split
    · simp [Within]
    next some_bytes => simp [Within, begun some_bytes]
  simp only [readUntilSilence, loop, listening, drive, reads, List.map_cons]
  rw [driveFrom]
  simp only [turned, reads_first, data, List.cons_ne_nil, if_false]

theorem readUntilSilence_silent (some_bytes : held ≠ []) (room : held.length < max)
    (quiet : Quiet timer interval now rest) :
    readUntilSilence max interval none (listening timer now rest held) =
      (some (.ok held), listening timer (timer.fires (now + interval)) rest []) := by
  have turned := silenceTurn_begun max interval some_bytes
  rw [if_neg (Nat.not_le_of_lt room)] at turned
  simp only [readUntilSilence, loop, listening, drive]
  cases rest with
  | nil =>
    unfold driveFrom
    simp [turned, lull, race, reads, Within]
  | cons next rest =>
    obtain ⟨time, byte⟩ := next
    have late : timer.fires (now + interval) < time := quiet _ rfl
    have timed : race timer now (some time) (some interval) none = (.timer, timer.fires (now + interval)) := by
      simp [race, Within, late]
    unfold driveFrom
    simp only [turned, lull, reads, List.map_cons, timed]

theorem readUntilSilence_full (some_bytes : held ≠ []) (full : max ≤ held.length) :
    readUntilSilence max interval none (listening timer now rest held) =
      (some (.error (.aduTooLarge held.length max)), listening timer now rest held) := by
  have turned := silenceTurn_begun max interval some_bytes
  rw [if_pos full] at turned
  simp only [readUntilSilence, loop, listening, drive]
  unfold driveFrom
  simp only [turned]

end Receive

section Receives

variable {crc16 : Bytes → UInt16} {config : TransportConfig} {direction : Direction}

def hearing (timer : Timer) (now : Nat) (line : Timed) (held : Bytes) : Reader :=
  ⟨Receive.listening timer now line held, false⟩

/-- Successive receives that come to these results, and leave this reader. -/
def Hears (crc16 : Bytes → UInt16) (config : TransportConfig) (direction : Direction) (reader : Reader)
    (results : List (Result Bytes)) (after : Reader) : Prop :=
  ∀ more, recvAdus (rtu crc16) config direction (results.length + more) reader =
    (results.map some ++ (recvAdus (rtu crc16) config direction more after).1,
      (recvAdus (rtu crc16) config direction more after).2)

namespace Hears

theorem refl (reader : Reader) : Hears crc16 config direction reader [] reader := by
  intro more
  simp

theorem cons {reader middle after : Reader} {result : Result Bytes} {results : List (Result Bytes)}
    (first : recvAdu (rtu crc16) config direction none reader = (some result, middle))
    (rest : Hears crc16 config direction middle results after) :
    Hears crc16 config direction reader (result :: results) after := by
  intro more
  have onwards := rest more
  rw [List.length_cons, Nat.add_right_comm, recvAdus, first]
  simp only [onwards, List.map_cons, List.cons_append]

theorem trans {reader middle after : Reader} {first second : List (Result Bytes)}
    (begins : Hears crc16 config direction reader first middle)
    (goes : Hears crc16 config direction middle second after) :
    Hears crc16 config direction reader (first ++ second) after := by
  intro more
  rw [List.length_append, Nat.add_assoc, begins, goes]
  simp

theorem of_same {reader other after : Reader} {result : Result Bytes} {results : List (Result Bytes)}
    (same : recvAdu (rtu crc16) config direction none reader = recvAdu (rtu crc16) config direction none other)
    (hears : Hears crc16 config direction other (result :: results) after) :
    Hears crc16 config direction reader (result :: results) after := by
  intro more
  rw [← hears more, List.length_cons, Nat.add_right_comm, recvAdus, recvAdus, same]

end Hears

variable {timer : Timer} {now time : Nat} {byte : UInt8} {held : Bytes} {rest : Timed}

theorem recvAdu_gathers (room : held.length < Rtu.maxAduLen)
    (begun : held ≠ [] → time ≤ timer.fires (now + config.interFrameInterval)) (waiting : now ≤ time) :
    recvAdu (rtu crc16) config direction none (hearing timer now ((time, byte) :: rest) held) =
      recvAdu (rtu crc16) config direction none (hearing timer time rest (held ++ [byte])) := by
  have same : Receive.readAdu (rtu crc16) config direction none
        (Receive.listening timer now ((time, byte) :: rest) held) =
      Receive.readAdu (rtu crc16) config direction none (Receive.listening timer time rest (held ++ [byte])) :=
    Receive.readUntilSilence_gathers room begun waiting
  simp only [recvAdu, hearing, same, Bool.false_eq_true, if_false]

theorem recvAdu_silent (some_bytes : held ≠ []) (room : held.length < Rtu.maxAduLen)
    (quiet : Quiet timer config.interFrameInterval now rest) :
    recvAdu (rtu crc16) config direction none (hearing timer now rest held) =
      (some (.ok held), hearing timer (timer.fires (now + config.interFrameInterval)) rest []) := by
  have reads : Receive.readAdu (rtu crc16) config direction none (Receive.listening timer now rest held) =
      (some (.ok held), Receive.listening timer (timer.fires (now + config.interFrameInterval)) rest []) :=
    Receive.readUntilSilence_silent some_bytes room quiet
  simp only [recvAdu, hearing, reads, Bool.false_eq_true, if_false]

theorem recvAdu_full (some_bytes : held ≠ []) (full : Rtu.maxAduLen ≤ held.length) :
    recvAdu (rtu crc16) config direction none (hearing timer now rest held) =
      (some (.error (.aduTooLarge held.length Rtu.maxAduLen)), hearing timer now rest []) := by
  have reads : Receive.readAdu (rtu crc16) config direction none (Receive.listening timer now rest held) =
      (some (.error (.aduTooLarge held.length Rtu.maxAduLen)), Receive.listening timer now rest held) :=
    Receive.readUntilSilence_full some_bytes full
  simp only [recvAdu, hearing, reads, Bool.false_eq_true, if_false]
  rfl

theorem outcomes_begun {max : Nat} {held : Bytes} (begun : held ≠ []) (run : Bytes) :
    ∃ first others, outcomes max held run = first :: others := by
  induction run generalizing held with
  | nil => exact ⟨_, _, if_neg begun⟩
  | cons byte rest ih =>
    rw [outcomes]
    split
    · exact ih (by simp)
    · exact ⟨_, _, rfl⟩

theorem hears_run {run : Timed} (room : held.length < Rtu.maxAduLen) (ordered : InOrder now (run ++ rest))
    (begun : held ≠ [] → ∀ next ∈ run.head?, next.1 ≤ timer.fires (now + config.interFrameInterval))
    (close : run.IsChain fun earlier later => follows timer config.interFrameInterval earlier later)
    (quiet : Quiet timer config.interFrameInterval (lastAt now run) rest) :
    ∃ later, (∀ next ∈ rest.head?, later ≤ next.1) ∧
      Hears crc16 config direction (hearing timer now (run ++ rest) held)
        (outcomes Rtu.maxAduLen held (Timed.bytes run)) (hearing timer later rest []) := by
  induction run generalizing now held with
  | nil =>
    by_cases nothing : held = []
    · subst nothing
      exact ⟨now, ordered.1, .refl _⟩
    · have ends : outcomes Rtu.maxAduLen held (Timed.bytes []) = [.ok held] := if_neg nothing
      rw [ends]
      exact ⟨_, fun next begins => Nat.le_of_lt (quiet next begins),
        .cons (recvAdu_silent nothing room quiet) (.refl _)⟩
  | cons next run ih =>
    obtain ⟨time, byte⟩ := next
    have gathers := @recvAdu_gathers crc16 config direction timer now time byte held (run ++ rest) room
      (fun some_bytes => begun some_bytes _ rfl) (ordered.1 _ rfl)
    obtain ⟨following, later⟩ := List.isChain_cons.mp close
    simp only [follows, decide_eq_true_eq] at following
    by_cases space : held.length + 1 < Rtu.maxAduLen
    · have goes : outcomes Rtu.maxAduLen held (Timed.bytes ((time, byte) :: run)) =
          outcomes Rtu.maxAduLen (held ++ [byte]) (Timed.bytes run) := if_pos space
      obtain ⟨moment, soon, hears⟩ := @ih time (held ++ [byte]) (by rw [List.length_append]; exact space)
        ordered.tail (fun _ => following) later quiet
      obtain ⟨first, others, same⟩ := outcomes_begun (by simp : held ++ [byte] ≠ []) (Timed.bytes run)
      rw [goes]
      rw [same] at hears ⊢
      exact ⟨moment, soon, hears.of_same gathers⟩
    · have goes : outcomes Rtu.maxAduLen held (Timed.bytes ((time, byte) :: run)) =
          .error (.aduTooLarge (held.length + 1) Rtu.maxAduLen) :: outcomes Rtu.maxAduLen [] (Timed.bytes run) :=
        if_neg space
      have full := @recvAdu_full crc16 config direction timer time (held ++ [byte]) (run ++ rest) (by simp)
        (by rw [List.length_append]; exact Nat.le_of_not_lt space)
      obtain ⟨moment, soon, hears⟩ := @ih time [] (Nat.lt_of_le_of_lt (Nat.zero_le _) room) ordered.tail
        (fun some_bytes => absurd rfl some_bytes) later quiet
      rw [List.length_append, List.length_singleton] at full
      rw [goes]
      exact ⟨moment, soon, .of_same gathers (.cons full hears)⟩

theorem hears_runs {runs : List Timed} (nonempty : [] ∉ runs) (ordered : InOrder now runs.flatten)
    (close : ∀ run ∈ runs,
      run.IsChain fun earlier later => follows timer config.interFrameInterval earlier later)
    (apart : runs.IsChain fun earlier later => ∃ begun more,
      follows timer config.interFrameInterval (earlier.getLast begun) (later.head more) = false) :
    ∃ later, Hears crc16 config direction (hearing timer now runs.flatten [])
      (runs.flatMap fun run => outcomes Rtu.maxAduLen [] (Timed.bytes run)) (hearing timer later [] []) := by
  induction runs generalizing now with
  | nil => exact ⟨now, .refl _⟩
  | cons run runs ih =>
    obtain ⟨cut, further⟩ := List.isChain_cons.mp apart
    have others : [] ∉ runs := fun inside => nonempty (List.mem_cons_of_mem _ inside)
    have quiet : Quiet timer config.interFrameInterval (lastAt now run) runs.flatten := by
      cases runs with
      | nil => rintro _ ⟨⟩
      | cons second runs =>
        obtain ⟨begun, more, late⟩ := cut second rfl
        intro next begins
        rw [List.flatten_cons, List.head?_append_of_ne_nil _ more] at begins
        rw [lastAt_eq begun, ← List.head_of_mem_head? begins]
        simpa [follows] using late
    obtain ⟨moment, soon, hears⟩ := @hears_run crc16 config direction timer now [] runs.flatten run
      (by decide) ordered (fun some_bytes => absurd rfl some_bytes) (close run List.mem_cons_self) quiet
    obtain ⟨later, goes⟩ := @ih moment others (ordered.suffix soon)
      (fun other inside => close other (List.mem_cons_of_mem _ inside)) further
    exact ⟨later, hears.trans goes⟩

end Receives

/-- What the receiver takes for one run: bytes each of which comes before the timer set at the one
before has gone off. -/
def runsOf (timer : Timer) (interval : Nat) (line : Timed) : List Timed := line.splitBy (follows timer interval)

theorem hears_line (crc16 : Bytes → UInt16) (config : TransportConfig) (direction : Direction) (timer : Timer)
    {now : Nat} {line : Timed} (ordered : InOrder now line) :
    ∃ later, Hears crc16 config direction (hearing timer now line [])
      ((runsOf timer config.interFrameInterval line).flatMap fun run => outcomes Rtu.maxAduLen [] (Timed.bytes run))
      (hearing timer later [] []) := by
  have whole : (runsOf timer config.interFrameInterval line).flatten = line := List.flatten_splitBy _ _
  rw [← whole] at ordered
  have hears := @hears_runs crc16 config direction timer now (runsOf timer config.interFrameInterval line)
    (List.nil_notMem_splitBy _ _) ordered (fun run => List.isChain_of_mem_splitBy)
    (List.isChain_getLast_head_splitBy _ _)
  rwa [whole] at hears

/-- However the bytes of a line are timed, successive receives hand out exactly its runs, each as one
frame if the receiver's buffer has room for it, and then wait. -/
theorem frames_cut_at_silence (crc16 : Bytes → UInt16) (config : TransportConfig) (direction : Direction)
    (timer : Timer) {now : Nat} {line : Timed} (ordered : InOrder now line) :
    let results := (runsOf timer config.interFrameInterval line).flatMap fun run =>
      outcomes Rtu.maxAduLen [] (Timed.bytes run)
    (recvAdus (rtu crc16) config direction (results.length + 1) (.new ⟨now, Timed.reads line, none, timer⟩)).1 =
      results.map some ++ [none] := by
  intro results
  obtain ⟨later, hears⟩ := hears_line crc16 config direction timer ordered
  exact congrArg Prod.fst (hears 1)

/-- With ticks of a millisecond, a pause of 2.5 ms does not end a frame whose interval is 2.005 ms, and a
pause of 3.5 ms does. -/
theorem pause_shorter_than_tick_joins :
    (recvAdus (rtu Rtu.crc16Modbus) .default .request 3
      (.new ⟨0, Timed.reads [(0, 0x11), (2500000, 0x07), (6000000, 0x4C)], none, millisecondTimer⟩)).1 =
      [some (.ok [0x11, 0x07]), some (.ok [0x4C]), none] :=
  @frames_cut_at_silence Rtu.crc16Modbus .default .request millisecondTimer 0
    [(0, 0x11), (2500000, 0x07), (6000000, 0x4C)] (by decide)

inductive DataBits where
  | five | six | seven | eight
  deriving DecidableEq, Repr

inductive Parity where
  | none | odd | even
  deriving DecidableEq, Repr

inductive StopBits where
  | one | two
  deriving DecidableEq, Repr

/-- What of a port's parameters bears on its timing. -/
structure SerialConfig where
  baudRate : UInt32
  dataBits : DataBits
  parity : Parity
  stopBits : StopBits
  deriving DecidableEq, Repr

/-- `Error::Configuration`. -/
structure ConfigurationError where
  field : String
  deriving DecidableEq, Repr

namespace SerialConfig

def default : SerialConfig := ⟨19200, .eight, .even, .one⟩

/-- `FIXED_INTERVAL_ABOVE_BAUD`. -/
def fixedIntervalAboveBaud : UInt32 := 19200

/-- `FIXED_INTERVAL`, in nanoseconds. -/
def fixedInterval : Nat := 1750000

/-- `u64::saturating_mul`. -/
def saturatingMul (first second : Nat) : Nat := min (first * second) 18446744073709551615

/-- One start bit, the data bits, a parity bit if any, and the stop bits. -/
def bitsPerCharacter (config : SerialConfig) : Nat :=
  let data := match config.dataBits with
    | .five => 5
    | .six => 6
    | .seven => 7
    | .eight => 8
  let parity := match config.parity with
    | .none => 0
    | .odd | .even => 1
  let stop := match config.stopBits with
    | .one => 1
    | .two => 2
  1 + data + parity + stop

def interFrameInterval (config : SerialConfig) : Except ConfigurationError Nat :=
  if config.baudRate = 0 then .error ⟨"baud_rate"⟩
  else if config.baudRate > fixedIntervalAboveBaud then .ok fixedInterval
  else .ok (saturatingMul config.bitsPerCharacter 7000000000 / saturatingMul config.baudRate.toNat 2)

end SerialConfig

/-- The ASCII timeout does not depend on the line. -/
def TransportConfig.fromSerial (config : SerialConfig) : Except ConfigurationError TransportConfig := do
  let interval ← config.interFrameInterval
  return ⟨interval, TransportConfig.default.asciiInterCharacterTimeout⟩

example : TransportConfig.fromSerial .default = .ok .default := rfl

namespace SerialConfig

variable (serial : SerialConfig)

def character : Nat := serial.bitsPerCharacter * 1000000000

/-- Bytes of one frame: a character follows the one before after an idle time of at most one and a half. -/
def FollowsOn (gap : Nat) : Prop := 2 * (gap * serial.baudRate.toNat) ≤ 5 * serial.character

/-- The first byte of a frame: its character follows an idle time of at least three and a half, or of the
fixed interval on a fast line. -/
def StartsFrame (gap : Nat) : Prop :=
  if serial.baudRate > fixedIntervalAboveBaud then
    fixedInterval * serial.baudRate.toNat + serial.character ≤ gap * serial.baudRate.toNat
  else 9 * serial.character ≤ 2 * (gap * serial.baudRate.toNat)

instance (gap : Nat) : Decidable (serial.FollowsOn gap) := inferInstanceAs (Decidable (_ ≤ _))

instance (gap : Nat) : Decidable (serial.StartsFrame gap) := inferInstanceAs (Decidable (ite _ _ _))

/-- Frames as a sender sends them that keeps to the line's timing, and leaves this much longer
between two frames. -/
structure Conforms (extra : Nat) (frames : List Timed) : Prop where
  sized : ∀ frame ∈ frames, frame ≠ [] ∧ frame.length < Rtu.maxAduLen
  close : ∀ frame ∈ frames, frame.IsChain fun earlier later => serial.FollowsOn (later.1 - earlier.1)
  apart : frames.IsChain fun earlier later => ∀ last ∈ earlier.getLast?, ∀ first ∈ later.head?,
    serial.StartsFrame (first.1 - (last.1 + extra))

variable {serial}

theorem bitsPerCharacter_bounds : 7 ≤ serial.bitsPerCharacter ∧ serial.bitsPerCharacter ≤ 12 := by
  obtain ⟨_, data, parity, stop⟩ := serial
  cases data <;> cases parity <;> cases stop <;> simp [bitsPerCharacter]

theorem fast_iff : serial.baudRate > fixedIntervalAboveBaud ↔ 19200 < serial.baudRate.toNat :=
  UInt32.lt_iff_toNat_lt

theorem interFrameInterval_ok {interval : Nat} (derived : serial.interFrameInterval = .ok interval) :
    0 < serial.baudRate.toNat ∧
    ((19200 < serial.baudRate.toNat ∧ interval = fixedInterval) ∨
      (serial.baudRate.toNat ≤ 19200 ∧ interval = 7 * serial.character / (serial.baudRate.toNat * 2))) := by
  obtain ⟨_, wide⟩ := @bitsPerCharacter_bounds serial
  have small := serial.baudRate.toNat_lt
  unfold interFrameInterval at derived
  split at derived
  · cases derived
  next moving =>
    have positive : 0 < serial.baudRate.toNat := by
      apply Nat.pos_of_ne_zero
      intro zero
      exact moving (UInt32.toNat_inj.mp zero)
    refine ⟨positive, ?_⟩
    split at derived
    next fast =>
      cases derived
      exact .inl ⟨fast_iff.mp fast, rfl⟩
    next slow =>
      cases derived
      have modest : serial.baudRate.toNat ≤ 19200 := Nat.le_of_not_lt (mt fast_iff.mpr slow)
      have numerator : saturatingMul serial.bitsPerCharacter 7000000000 = 7 * serial.character := by
        unfold saturatingMul character
        omega
      have denominator : saturatingMul serial.baudRate.toNat 2 = serial.baudRate.toNat * 2 := by
        unfold saturatingMul
        omega
      exact .inr ⟨modest, by rw [numerator, denominator]⟩

theorem FollowsOn.lt {interval gap : Nat} (derived : serial.interFrameInterval = .ok interval)
    (follows : serial.FollowsOn gap) : gap < interval := by
  obtain ⟨least, wide⟩ := @bitsPerCharacter_bounds serial
  unfold FollowsOn character at follows
  obtain ⟨positive, ⟨fast, rfl⟩ | ⟨slow, rfl⟩⟩ := interFrameInterval_ok derived
  · by_contra long
    have product : 1750000 * 19200 ≤ gap * serial.baudRate.toNat :=
      Nat.mul_le_mul (Nat.le_of_not_lt long) (Nat.le_of_lt fast)
    omega
  · apply (Nat.le_div_iff_mul_le (by omega)).mpr
    rw [Nat.succ_mul, ← Nat.mul_assoc, character]
    omega

theorem StartsFrame.lt {interval gap : Nat} (derived : serial.interFrameInterval = .ok interval)
    (starts : serial.StartsFrame gap) : interval < gap := by
  obtain ⟨least, _⟩ := @bitsPerCharacter_bounds serial
  unfold StartsFrame at starts
  obtain ⟨positive, ⟨fast, rfl⟩ | ⟨slow, rfl⟩⟩ := interFrameInterval_ok derived
  · rw [if_pos (fast_iff.mpr fast)] at starts
    unfold character at starts
    apply Nat.lt_of_mul_lt_mul_right (a := serial.baudRate.toNat)
    omega
  · rw [if_neg (mt fast_iff.mp (Nat.not_lt_of_le slow))] at starts
    apply Nat.div_lt_of_lt_mul
    unfold character at starts ⊢
    rw [Nat.mul_comm serial.baudRate.toNat, Nat.mul_assoc, Nat.mul_comm serial.baudRate.toNat]
    omega

end SerialConfig

theorem outcomes_fits {max : Nat} {held run : Bytes} (nonempty : held ++ run ≠ [])
    (fits : held.length + run.length < max) : outcomes max held run = [.ok (held ++ run)] := by
  induction run generalizing held with
  | nil =>
    rw [List.append_nil] at nonempty ⊢
    exact if_neg nonempty
  | cons byte run ih =>
    rw [List.length_cons] at fits
    have goes : outcomes max held (byte :: run) = outcomes max (held ++ [byte]) run := if_pos (by omega)
    rw [goes, ih (by simp) (by rw [List.length_append, List.length_singleton]; omega)]
    simp

theorem SerialConfig.Conforms.runsOf {serial : SerialConfig} {interval resolution : Nat} {timer : Timer}
    (derived : serial.interFrameInterval = .ok interval)
    (resolves : ∀ moment, timer.fires moment ≤ moment + resolution) {frames : List Timed}
    (conforms : serial.Conforms resolution frames) : runsOf timer interval frames.flatten = frames := by
  refine List.splitBy_flatten (fun inside => (conforms.sized _ inside).1 rfl) ?_ ?_
  · intro frame inside
    refine (conforms.close frame inside).imp ?_
    intro earlier later close
    have short := close.lt derived
    have waits := timer.patient (earlier.1 + interval)
    simp only [follows, decide_eq_true_eq]
    omega
  · refine conforms.apart.imp_of_mem_imp ?_
    intro earlier later here there apart
    have begun := (conforms.sized earlier here).1
    have more := (conforms.sized later there).1
    have long := (apart _ (List.getLast_mem_getLast? begun) _ (List.head_mem_head? more)).lt derived
    have fired := resolves ((earlier.getLast begun).1 + interval)
    refine ⟨begun, more, ?_⟩
    simp only [follows, decide_eq_false_iff_not]
    omega

/-- The frames of a sender that keeps to the line's timing are received one by one and whole, if it
leaves the receiver's timer time to go off. -/
theorem conforming_frames_received (crc16 : Bytes → UInt16) (serial : SerialConfig) (config : TransportConfig)
    (derived : TransportConfig.fromSerial serial = .ok config) (direction : Direction) (timer : Timer)
    {resolution : Nat} (resolves : ∀ moment, timer.fires moment ≤ moment + resolution) {now : Nat}
    {frames : List Timed} (ordered : InOrder now frames.flatten) (conforms : serial.Conforms resolution frames) :
    (recvAdus (rtu crc16) config direction frames.length (.new ⟨now, Timed.reads frames.flatten, none, timer⟩)).1 =
      frames.map fun frame => some (.ok (Timed.bytes frame)) := by
  obtain ⟨interval, derives, same⟩ : ∃ interval, serial.interFrameInterval = .ok interval ∧
      config.interFrameInterval = interval := by
    unfold TransportConfig.fromSerial at derived
    cases found : serial.interFrameInterval with
    | error e =>
      rw [found] at derived
      cases derived
    | ok interval =>
      rw [found] at derived
      cases derived
      exact ⟨interval, rfl, rfl⟩
  subst same
  have whole : (frames.flatMap fun frame => outcomes Rtu.maxAduLen [] (Timed.bytes frame)) =
      frames.map fun frame => .ok (Timed.bytes frame) := by
    rw [List.map_eq_flatMap]
    apply List.flatMap_congr
    intro frame inside
    obtain ⟨nonempty, fits⟩ := conforms.sized frame inside
    exact outcomes_fits (by simpa [Timed.bytes] using nonempty) (by simpa [Timed.bytes] using fits)
  obtain ⟨later, hears⟩ := hears_line crc16 config direction timer ordered
  have heard := hears 0
  rw [conforms.runsOf derives resolves, whole, List.length_map, Nat.add_zero] at heard
  have results := congrArg Prod.fst heard
  rw [List.map_map, recvAdus, List.append_nil] at results
  exact results

/-- Two requests on a line of 19200 baud, whose characters take 572917 nanoseconds. -/
def twoRequests : List Timed :=
  [[(100, 0x11), (573100, 0x07), (2005100, 0x4C), (2578100, 0x22)],
    [(6156224, 0x12), (6729224, 0x07), (7302224, 0x4C), (7875224, 0xD2)]]

theorem twoRequests_conforms : SerialConfig.default.Conforms 999999 twoRequests := by
  constructor <;> decide

theorem two_requests_told_apart :
    (recvAdus (rtu Rtu.crc16Modbus) .default .request 2
      (.new ⟨40, Timed.reads twoRequests.flatten, none, millisecondTimer⟩)).1 =
      [some (.ok [0x11, 0x07, 0x4C, 0x22]), some (.ok [0x12, 0x07, 0x4C, 0xD2])] :=
  conforming_frames_received Rtu.crc16Modbus .default .default rfl .request millisecondTimer
    (Timer.ticking_fires_le _ (by decide)) (by decide) twoRequests_conforms

end Modbus
