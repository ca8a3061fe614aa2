import Modbus.ReceiveBound

/-! How much a receiver ever holds. Each reader checks the bound in a place of its own,
but none asks for more while it has a whole ADU's worth, and a read brings one chunk at
most: so the buffer never outgrows the largest ADU by a whole chunk. -/
namespace Modbus

open Bytes ByteStream

variable {Header : Type}

namespace Receive

/-- The buffer at some moment while it is filled to a length. -/
def Filling (max len : Nat) (limit : Option Nat) (link : Link) (buffer : Bytes) : Prop :=
  if len > max then buffer = link.buffer else Visits (fillTurn len) limit link.buffer link.stream buffer

/-- The buffer at some moment while an ADU is read. -/
def Reading (framing : Framing Header) (config : TransportConfig) (direction : Direction)
    (limit : Option Nat) (link : Link) (buffer : Bytes) : Prop :=
  match framing.boundary with
  | .prefixed prefixLen total =>
    Filling framing.maxAduLen prefixLen limit link buffer ∨
      ∃ full len, fillTo framing.maxAduLen prefixLen limit link = (some (.ok ()), full) ∧
        total (full.buffer.take prefixLen) = .ok len ∧ Filling framing.maxAduLen len limit full buffer
  | .delimited start terminator =>
    ∃ state : Search, state.buffer = buffer ∧
      Visits (delimitedTurn framing.maxAduLen config.asciiInterCharacterTimeout start terminator) limit
        ⟨link.buffer, 0⟩ link.stream state
  | .silence => Visits (silenceTurn framing.maxAduLen config.interFrameInterval) limit link.buffer link.stream buffer
  | .contentLength min extent =>
    Filling framing.maxAduLen min limit link buffer ∨
      ∃ full, fillTo framing.maxAduLen min limit link = (some (.ok ()), full) ∧
        Visits (contentTurn framing.maxAduLen extent direction) limit full.buffer full.stream buffer

end Receive

/-- The buffer at some moment of a call: before it, while it reads, when the reader is through,
and when the call has ended or is dropped. -/
inductive Reader.Buffers (framing : Framing Header) (config : TransportConfig) (direction : Direction)
    (limit : Option Nat) (reader : Reader) : Bytes → Prop
  | before : Buffers framing config direction limit reader reader.link.buffer
  | reading {buffer : Bytes} : reader.receiving = false →
      Receive.Reading framing config direction limit reader.link buffer →
      Buffers framing config direction limit reader buffer
  | read : reader.receiving = false → Buffers framing config direction limit reader
      (Receive.readAdu framing config direction limit reader.link).2.buffer
  | after : Buffers framing config direction limit reader
      (recvAdu framing config direction limit reader).2.link.buffer

/-- Whatever the stream brings and whatever calls came before, the buffer stays within the bound. -/
def BuffersWithin (bound : Nat) (framing : Framing Header) (config : TransportConfig) : Prop :=
  ∀ stream calls direction limit buffer,
    ((Reader.new stream).received framing config calls).Buffers framing config direction limit buffer →
    buffer.length ≤ bound

namespace Receive

variable {max len : Nat} {limit : Option Nat} {link : Link} {buffer : Bytes}

/-- Less than the largest ADU and one chunk. -/
def Roomy (max : Nat) (buffer : Bytes) : Prop := buffer.length ≤ max + 512

theorem Roomy.read {bytes : Bytes} (room : buffer.length < max) (chunk : bytes.length ≤ readChunk) :
    Roomy max (buffer ++ bytes) := by
  unfold readChunk at chunk
  rw [Roomy, List.length_append]
  omega

theorem Roomy.of_le {shorter : Bytes} (roomy : Roomy max buffer) (le : shorter.length ≤ buffer.length) :
    Roomy max shorter := Nat.le_trans le roomy

theorem readMore_keeps (midAdu : Bool) (room : buffer.length < max) :
    (readMore buffer midAdu : Await ReadFailure Bytes (Result α)).Keeps readChunk (Roomy max) := by
  have roomy : Roomy max buffer := by
    unfold Roomy
    omega
  exact ⟨fun _ chunk => .read room chunk, roomy, roomy, fun _ => roomy⟩

theorem fillTurn_keeps (small : len ≤ max) : Keeps readChunk (fillTurn len) (Roomy max) where
  stop roomy turned := by
    obtain ⟨_, rfl, _⟩ := fillTurn_stop turned
    exact roomy
  await {state _ _} roomy turned := by
    have short : state.length < len := by
      unfold fillTurn at turned
      split at turned
      · assumption
      · cases turned
    obtain ⟨rfl, rfl⟩ := fillTurn_await turned
    exact ⟨roomy, readMore_keeps _ (by omega)⟩

theorem silenceTurn_keeps (interval : Nat) (positive : 0 < max) :
    Keeps readChunk (silenceTurn max interval) (Roomy max) where
  stop roomy turned := by
    simp only [silenceTurn] at turned
    split at turned
    · cases turned
    · split at turned <;> cases turned
      exact roomy
  await {state _ _} roomy turned := by
    simp only [silenceTurn] at turned
    split at turned
    next empty =>
      cases turned
      rw [List.isEmpty_iff.mp empty]
      exact ⟨Nat.zero_le _, readMore_keeps false positive⟩
    · split at turned <;> cases turned
      next checked =>
        have room := checkBufferBound_ok.mp checked
        exact ⟨roomy, fun _ chunk => .read room chunk, Nat.zero_le _, Nat.zero_le _, fun _ => roomy⟩

theorem contentTurn_keeps (extent : Direction → Bytes → Result Extent) (direction : Direction) :
    Keeps readChunk (contentTurn max extent direction) (Roomy max) where
  stop roomy turned := by
    cases contentTurn_stop turned with
    | complete => exact roomy.of_le (by simp)
    | refused => exact roomy
    | full => exact roomy
  await roomy turned := by
    obtain ⟨rfl, rfl⟩ := contentTurn_await turned
    unfold contentTurn at turned
    split at turned
    · cases turned
    · cases turned
    · split at turned
      · cases turned
      next checked => exact ⟨roomy, readMore_keeps true (checkBufferBound_ok.mp checked)⟩

theorem delimitedTurn_keeps (timeout : Nat) (start : UInt8) (terminator : Bytes) :
    Keeps readChunk (delimitedTurn max timeout start terminator) fun state => Roomy max state.buffer where
  stop {state _ _} roomy turned := by
    have shorter := locate_length start terminator state
    simp only [delimitedTurn] at turned
    split at turned
    next located =>
      cases turned
      rw [located] at shorter
      exact roomy.of_le (Nat.le_trans (by simp) shorter)
    next located =>
      split at turned <;> cases turned
      rw [located] at shorter
      exact roomy.of_le shorter
  await {state _ _} roomy turned := by
    have shorter := locate_length start terminator state
    simp only [delimitedTurn] at turned
    split at turned
    · cases turned
    next located =>
      split at turned <;> cases turned
      next checked =>
        rw [located] at shorter
        have room := checkBufferBound_ok.mp checked
        have kept := roomy.of_le shorter
        exact ⟨kept, fun _ chunk => .read room chunk, kept, kept, fun _ => kept⟩

theorem filling_roomy (filling : Filling max len limit link buffer) (roomy : Roomy max link.buffer) :
    Roomy max buffer := by
  unfold Filling at filling
  split at filling
  · rwa [filling]
  next small => exact filling.holds (fillTurn_keeps (Nat.le_of_not_lt small)) roomy

theorem loop_visits {turn : Bytes → Turn ReadFailure Bytes (Result α)} {result : Option (Result α)}
    {after : Link} (ran : loop turn limit link = (result, after)) :
    Visits turn limit link.buffer link.stream after.buffer := by
  unfold loop at ran
  rcases drove : drive turn limit link.buffer link.stream with ⟨outcome, last, stream⟩
  simp only [drove] at ran
  cases ran
  exact drive_visits drove

theorem fillTo_filling {result : Option (Result Unit)} {after : Link}
    (filled : fillTo max len limit link = (result, after)) : Filling max len limit link after.buffer := by
  unfold fillTo at filled
  unfold Filling
  split at filled
  next large =>
    rw [if_pos large]
    cases filled
    rfl
  next small =>
    rw [if_neg small]
    exact loop_visits filled

variable {framing : Framing Header} {config : TransportConfig} {direction : Direction}

theorem reading_roomy (positive : 0 < framing.maxAduLen) (roomy : Roomy framing.maxAduLen link.buffer)
    (reading : Reading framing config direction limit link buffer) : Roomy framing.maxAduLen buffer := by
  unfold Reading at reading
  split at reading
  · rcases reading with filling | ⟨full, len, filled, _, filling⟩
    · exact filling_roomy filling roomy
    · exact filling_roomy filling (filling_roomy (fillTo_filling filled) roomy)
  · obtain ⟨state, rfl, visits⟩ := reading
    have held := visits.holds (delimitedTurn_keeps _ _ _) roomy
    exact held
  · exact reading.holds (silenceTurn_keeps _ positive) roomy
  · rcases reading with filling | ⟨full, filled, visits⟩
    · exact filling_roomy filling roomy
    · exact visits.holds (contentTurn_keeps _ _) (filling_roomy (fillTo_filling filled) roomy)

theorem andThen_roomy {max : Nat} {first : Option (Result α) × Link} {next : α → Link → Option (Result β) × Link}
    (roomy : Roomy max first.2.buffer)
    (continues : ∀ a, first.1 = some (.ok a) → Roomy max (next a first.2).2.buffer) :
    Roomy max (andThen first next).2.buffer := by
  rcases first with ⟨_ | e | a, middle⟩
  · exact roomy
  · exact roomy
  · exact continues a rfl

theorem fillTo_roomy (roomy : Roomy max link.buffer) : Roomy max (fillTo max len limit link).2.buffer :=
  filling_roomy (fillTo_filling rfl) roomy

theorem readAdu_roomy (positive : 0 < framing.maxAduLen) (roomy : Roomy framing.maxAduLen link.buffer) :
    Roomy framing.maxAduLen (readAdu framing config direction limit link).2.buffer := by
  unfold readAdu
  split
  · apply andThen_roomy (fillTo_roomy roomy)
    intro _ _
    split
    · exact fillTo_roomy roomy
    · apply andThen_roomy (fillTo_roomy (fillTo_roomy roomy))
      intro _ _
      exact Roomy.of_le (fillTo_roomy (fillTo_roomy roomy)) (List.drop_sublist _ _).length_le
  next start terminator _ =>
    have visits := drive_visits (rfl : drive (delimitedTurn framing.maxAduLen
      config.asciiInterCharacterTimeout start terminator) limit ⟨link.buffer, 0⟩ link.stream = _)
    have held := visits.holds (delimitedTurn_keeps _ _ _) roomy
    exact held
  · exact (loop_visits rfl).holds (silenceTurn_keeps _ positive) roomy
  · apply andThen_roomy (fillTo_roomy roomy)
    intro _ _
    exact (loop_visits rfl).holds (contentTurn_keeps _ _) (fillTo_roomy roomy)

end Receive

section Calls

variable {framing : Framing Header} {config : TransportConfig} {direction : Direction} {limit : Option Nat}
  {reader : Reader}

/-- One call keeps the bound, whether it succeeds, fails or is dropped. -/
theorem recvAdu_roomy (positive : 0 < framing.maxAduLen)
    (roomy : Receive.Roomy framing.maxAduLen reader.link.buffer) :
    Receive.Roomy framing.maxAduLen (recvAdu framing config direction limit reader).2.link.buffer := by
  rcases ran : recvAdu framing config direction limit reader with ⟨result, after⟩
  have ended : Receive.Roomy framing.maxAduLen
      (Receive.readAdu framing config direction limit reader.link).2.buffer := Receive.readAdu_roomy positive roomy
  cases recvAdu_received ran with
  | latched => exact roomy
  | abandoned _ read => rwa [read] at ended
  | adu _ read => rwa [read] at ended
  | failed _ read =>
    rw [read] at ended
    simp only
    split
    · exact Nat.zero_le _
    · exact ended

theorem received_roomy (positive : 0 < framing.maxAduLen) (calls : List (Direction × Option Nat))
    (roomy : Receive.Roomy framing.maxAduLen reader.link.buffer) :
    Receive.Roomy framing.maxAduLen (reader.received framing config calls).link.buffer := by
  induction calls generalizing reader with
  | nil => exact roomy
  | cons call calls ih => exact ih (recvAdu_roomy positive roomy)

theorem buffersWithin (positive : 0 < framing.maxAduLen) (config : TransportConfig) :
    BuffersWithin (framing.maxAduLen + 512) framing config := by
  intro stream calls direction limit buffer buffers
  have roomy : Receive.Roomy framing.maxAduLen ((Reader.new stream).received framing config calls).link.buffer :=
    received_roomy positive calls (Nat.zero_le _)
  cases buffers with
  | before => exact roomy
  | reading _ reading => exact Receive.reading_roomy positive roomy reading
  | read => exact Receive.readAdu_roomy positive roomy
  | after => exact recvAdu_roomy positive roomy

end Calls

/-- The receive buffer of every framing outgrows the largest ADU by less than one read. -/
theorem receive_buffers_bounded (crc16 : Bytes → UInt16) (config : TransportConfig) :
    BuffersWithin (tcp.maxAduLen + 512) tcp config ∧
    BuffersWithin ((rtu crc16).maxAduLen + 512) (rtu crc16) config ∧
    BuffersWithin ((rtuOverTcp crc16).maxAduLen + 512) (rtuOverTcp crc16) config ∧
    BuffersWithin (ascii.maxAduLen + 512) ascii config :=
  ⟨buffersWithin (by decide) config, buffersWithin (by decide : 0 < Rtu.maxAduLen) config,
    buffersWithin (by decide : 0 < Rtu.maxAduLen) config, buffersWithin (by decide) config⟩

/-- The bound is attained: one byte short of the largest ADU, and then a whole chunk. -/
theorem largest_buffer_reached (crc16 : Bytes → UInt16) (config : TransportConfig) (direction : Direction)
    (timer : Timer) (first second : {bytes : Bytes // bytes.length ≤ readChunk})
    (almost : first.val.length + 1 = (rtu crc16).maxAduLen) (whole : second.val.length = readChunk) :
    (Reader.new ⟨0, [⟨0, .ok first⟩, ⟨0, .ok second⟩], none, timer⟩).Buffers (rtu crc16) config direction none
      (first.val ++ second.val) ∧
    (first.val ++ second.val).length = (rtu crc16).maxAduLen + 512 := by
  have sized : (rtu crc16).maxAduLen = 256 := rfl
  have occupied : first.val ≠ [] := List.length_pos_iff.mp (by omega)
  have filled : second.val ≠ [] := List.length_pos_iff.mp (by rw [whole]; decide)
  have room : ¬256 ≤ first.val.length := by omega
  have waits : ∃ pending, Receive.silenceTurn 256 config.interFrameInterval first.val = .await first.val pending ∧
      pending.data = (first.val ++ ·) ∧ pending.timer = some config.interFrameInterval := by
    simp [Receive.silenceTurn, checkBufferBound, occupied, room]
  obtain ⟨pending, awaits, data, timed⟩ := waits
  have begins : Advances (Receive.silenceTurn 256 config.interFrameInterval) none []
      (⟨0, [⟨0, .ok first⟩, ⟨0, .ok second⟩], none, timer⟩ : Line)
      (.reading first.val ⟨0, [⟨0, .ok second⟩], none, timer⟩) :=
    .data (rfl : Receive.silenceTurn _ _ [] = .await [] (Receive.readMore [] false)) rfl occupied trivial trivial
  have goesOn : Advances (Receive.silenceTurn 256 config.interFrameInterval) none first.val
      (⟨0, [⟨0, .ok second⟩], none, timer⟩ : Line) (.reading (pending.data second.val) ⟨0, [], none, timer⟩) :=
    .data awaits rfl filled (by rw [timed]; exact Nat.zero_le _) trivial
  rw [data] at goesOn
  refine ⟨.reading rfl (.later begins (.later goesOn .here)), ?_⟩
  unfold readChunk at whole
  rw [List.length_append]
  omega

end Modbus
