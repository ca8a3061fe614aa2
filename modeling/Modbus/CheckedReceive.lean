import Modbus.AsciiLine
import Modbus.CheckedFraming
import Modbus.ExtentTable

/-! The readers that cut ADUs out of a stream, with the slices and drains that can fail.
A failed operation is kept as a missing state, on which the next turn gives up. Whatever a
peer sends, in whatever pieces, none of them fails. -/
namespace Modbus.Checked

open Bytes ByteStream

/-- How a framing finds the end of an ADU, where doing so can fail. -/
inductive Boundary where
  | prefixed (prefixLen : Nat) (total : Bytes → Option (Result Nat))
  | delimited (start : UInt8) (terminator : Bytes)
  | silence
  | contentLength (min : Nat) (extent : Direction → Bytes → Option (Result Extent))

/-- The receiving side of a framing. -/
structure Framing (Header : Type) where
  maxAduLen : Nat
  decodeRequest : Bytes → Option (Result (Header × RequestPdu))
  decodeResponse : Bytes → Option (Result (Header × ResponsePdu))
  boundary : Boundary

/-- Open the envelope, then decode what it holds. -/
def opening (split : Bytes → Option (Result (Header × Bytes))) (decode : Bytes → Option (Result α))
    (bytes : Bytes) : Option (Result (Header × α)) := do
  match ← split bytes with
  | .error e => some (.error e)
  | .ok (header, pdu) =>
    match ← decode pdu with
    | .error e => some (.error e)
    | .ok decoded => some (.ok (header, decoded))

def Framing.enveloping (bits maxAduLen : Nat) (split : Bytes → Option (Result (Header × Bytes)))
    (boundary : Boundary) : Framing Header where
  maxAduLen := maxAduLen
  decodeRequest := opening split (Checked.decodeRequest bits)
  decodeResponse := opening split (Checked.decodeResponse bits)
  boundary := boundary

/-- The length of a prefix is read without an operation that can fail. -/
def tcp (bits : Nat) : Framing MbapHeader :=
  .enveloping bits Modbus.Tcp.maxAduLen Tcp.split
    (.prefixed Modbus.Tcp.lengthPrefixLen fun head => some (Modbus.Tcp.aduLen head))

def rtu (crc16 : Bytes → UInt16) (bits : Nat) : Framing UnitId :=
  .enveloping bits Modbus.Rtu.maxAduLen (Rtu.split crc16) .silence

def rtuOverTcp (crc16 : Bytes → UInt16) (bits : Nat) : Framing UnitId :=
  .enveloping bits Modbus.Rtu.maxAduLen (Rtu.split crc16) (.contentLength 4 (Rtu.deriveExtent bits))

def ascii (bits : Nat) : Framing UnitId :=
  .enveloping bits Modbus.Ascii.maxAduLen Ascii.split
    (.delimited Modbus.Ascii.start Modbus.Ascii.terminator)

/-- `windows` refuses an empty needle. -/
def find (haystack needle : Bytes) (start : Nat) : Option (Option Nat) :=
  if start ≤ haystack.length then do
    let windows ← Panic.windows (haystack.drop start) needle.length
    some ((windows.findIdx? (· == needle)).map (· + start))
  else some none

namespace Receive

open Modbus.Receive (Search)

/-- The front of the chunk that a read has filled; the chunk has a fixed size. -/
def received (bytes : Bytes) : Option Bytes :=
  (Panic.splitAt ((bytes ++ List.replicate readChunk 0).take readChunk) bytes.length).map Prod.fst

def readMore (buffer : Bytes) (midAdu : Bool) : Await ReadFailure (Option Bytes) (Option (Result α)) where
  timer := none
  data bytes := (received bytes).map (buffer ++ ·)
  elapsed := (some (.error (endOfStream midAdu)), some buffer)
  ended := (some (.error (endOfStream midAdu)), some buffer)
  failed failure := (some (.error failure.error), some buffer)

/-- Without a state there is nothing to go on with. -/
def guarded (turn : σ → Turn ReadFailure (Option σ) (Option ρ)) :
    Option σ → Turn ReadFailure (Option σ) (Option ρ)
  | some state => turn state
  | none => .stop none none

def loop (turn : Bytes → Turn ReadFailure (Option Bytes) (Option (Result α))) (limit : Option Nat)
    (link : Link) : Option (Option (Result α) × Link) :=
  match drive (guarded turn) limit (some link.buffer) link.stream with
  | (none, some buffer, stream) => some (none, ⟨stream, buffer⟩)
  | (some (some result), some buffer, stream) => some (some result, ⟨stream, buffer⟩)
  | _ => none

def fillTurn (len : Nat) (buffer : Bytes) : Turn ReadFailure (Option Bytes) (Option (Result Unit)) :=
  if buffer.length < len then .await (some buffer) (readMore buffer (!buffer.isEmpty))
  else .stop (some (.ok ())) (some buffer)

def fillTo (max len : Nat) (limit : Option Nat) (link : Link) : Option (Option (Result Unit) × Link) :=
  if len > max then some (some (.error (.aduTooLarge len max)), link)
  else loop (fillTurn len) limit link

def andThen (first : Option (Option (Result α) × Link))
    (next : α → Link → Option (Option (Result β) × Link)) : Option (Option (Result β) × Link) := do
  match ← first with
  | (some (.ok a), link) => next a link
  | (some (.error e), link) => some (some (.error e), link)
  | (none, link) => some (none, link)

/-- `buffer.drain(..len)` -/
def take (len : Nat) (link : Link) : Option (Option (Result Bytes) × Link) := do
  let (adu, rest) ← Panic.splitAt link.buffer len
  some (some (.ok adu), ⟨link.stream, rest⟩)

def readPrefixed (max prefixLen : Nat) (total : Bytes → Option (Result Nat)) (limit : Option Nat)
    (link : Link) : Option (Option (Result Bytes) × Link) :=
  andThen (fillTo max prefixLen limit link) fun _ link => do
    let (head, _) ← Panic.splitAt link.buffer prefixLen
    match ← total head with
    | .error e => some (some (.error e), link)
    | .ok len => andThen (fillTo max len limit link) fun _ link => take len link

/-- `take` at the end of a turn. -/
def drained (state : Bytes → σ) (buffer : Bytes) (len : Nat) : Option (Result Bytes) × Option σ :=
  match Panic.splitAt buffer len with
  | some (adu, rest) => (some (.ok adu), some (state rest))
  | none => (none, none)

/-- `buffer.drain(..offset)`, unless the start byte is in front already. -/
def discard (buffer : Bytes) (offset : Nat) : Option Bytes :=
  if offset > 0 then (Panic.splitAt buffer offset).map Prod.snd else some buffer

def locate (start : UInt8) (terminator : Bytes) (state : Search) : Option (Option Nat × Search) :=
  match state.buffer.findIdx? (· == start) with
  | some offset => do
    let buffer ← discard state.buffer offset
    let searched := if offset > 0 then 0 else state.searched
    match ← find buffer terminator searched with
    | some found => some (some (found + terminator.length), ⟨buffer, searched⟩)
    | none => some (none, ⟨buffer, buffer.length - (terminator.length - 1)⟩)
  | none => some (none, ⟨[], 0⟩)

def delimitedTurn (max timeout : Nat) (start : UInt8) (terminator : Bytes) (state : Search) :
    Turn ReadFailure (Option Search) (Option (Result Bytes)) :=
  match locate start terminator state with
  | none => .stop none none
  | some (some len, state) =>
    let (result, next) := drained (fun rest => ⟨rest, state.searched⟩) state.buffer len
    .stop result next
  | some (none, state) =>
    match checkBufferBound max state.buffer with
    | .error e => .stop (some (.error e)) (some state)
    | .ok () => .await (some state) {
        timer := if state.buffer.isEmpty then none else some timeout
        data := fun bytes => (received bytes).map fun read => ⟨state.buffer ++ read, state.searched⟩
        elapsed := (some (.error (.timeout "ascii inter-character")), some state)
        ended := (some (.error (endOfStream (!state.buffer.isEmpty))), some state)
        failed := fun failure => (some (.error failure.error), some state) }

def readDelimited (max timeout : Nat) (start : UInt8) (terminator : Bytes) (limit : Option Nat)
    (link : Link) : Option (Option (Result Bytes) × Link) :=
  match drive (guarded (delimitedTurn max timeout start terminator)) limit (some ⟨link.buffer, 0⟩)
      link.stream with
  | (none, some state, stream) => some (none, ⟨stream, state.buffer⟩)
  | (some (some result), some state, stream) => some (some result, ⟨stream, state.buffer⟩)
  | _ => none

def silenceTurn (max interval : Nat) (buffer : Bytes) :
    Turn ReadFailure (Option Bytes) (Option (Result Bytes)) :=
  if buffer.isEmpty then .await (some buffer) (readMore buffer false)
  else match checkBufferBound max buffer with
    | .error e => .stop (some (.error e)) (some buffer)
    | .ok () => .await (some buffer) {
        timer := some interval
        data := fun bytes => (received bytes).map (buffer ++ ·)
        elapsed := drained id buffer buffer.length
        ended := drained id buffer buffer.length
        failed := fun failure => (some (.error failure.error), some buffer) }

def readUntilSilence (max interval : Nat) (limit : Option Nat) (link : Link) :
    Option (Option (Result Bytes) × Link) :=
  loop (silenceTurn max interval) limit link

def contentTurn (max : Nat) (extent : Direction → Bytes → Option (Result Extent)) (direction : Direction)
    (buffer : Bytes) : Turn ReadFailure (Option Bytes) (Option (Result Bytes)) :=
  match extent direction buffer with
  | none => .stop none none
  | some (.error e) => .stop (some (.error e)) (some buffer)
  | some (.ok (.complete len)) =>
    let (result, next) := drained id buffer len
    .stop result next
  | some (.ok .needMore) =>
    match checkBufferBound max buffer with
    | .error e => .stop (some (.error e)) (some buffer)
    | .ok () => .await (some buffer) (readMore buffer true)

def readContentLength (max min : Nat) (extent : Direction → Bytes → Option (Result Extent))
    (direction : Direction) (limit : Option Nat) (link : Link) : Option (Option (Result Bytes) × Link) :=
  andThen (fillTo max min limit link) fun _ link => loop (contentTurn max extent direction) limit link

def readAdu (framing : Framing Header) (config : TransportConfig) (direction : Direction)
    (limit : Option Nat) (link : Link) : Option (Option (Result Bytes) × Link) :=
  match framing.boundary with
  | .prefixed prefixLen total => readPrefixed framing.maxAduLen prefixLen total limit link
  | .delimited start terminator =>
    readDelimited framing.maxAduLen config.asciiInterCharacterTimeout start terminator limit link
  | .silence => readUntilSilence framing.maxAduLen config.interFrameInterval limit link
  | .contentLength min extent => readContentLength framing.maxAduLen min extent direction limit link

section Turns

theorem received_checked {bytes : Bytes} (fits : bytes.length ≤ readChunk) (f : Bytes → σ) :
    (received bytes).map f = some (f bytes) := by
  have inside : bytes.length ≤ ((bytes ++ List.replicate readChunk 0).take readChunk).length := by
    rw [List.length_take, List.length_append]
    omega
  rw [received, Panic.splitAt_eq inside, Option.map_some, List.take_take, Nat.min_eq_left fits,
    List.take_left, Option.map_some]

theorem readMore_mirrors (buffer : Bytes) (midAdu : Bool) :
    (Modbus.Receive.readMore buffer midAdu : Await ReadFailure Bytes (Result α)).Mirrors readChunk some some
      (readMore buffer midAdu) where
  timer := rfl
  data _ fits := received_checked fits _
  elapsed := rfl
  ended := rfl
  failed _ := rfl

theorem fillTurn_mirrors (len : Nat) (buffer : Bytes) :
    (Modbus.Receive.fillTurn len buffer).Mirrors readChunk some some (fillTurn len buffer) := by
  unfold fillTurn Modbus.Receive.fillTurn
  split
  · exact .await (readMore_mirrors buffer _)
  · exact .stop

theorem drained_checked (state : Bytes → σ) {buffer : Bytes} {len : Nat} (inside : len ≤ buffer.length) :
    drained state buffer len = (some (.ok (buffer.take len)), some (state (buffer.drop len))) := by
  rw [drained, Panic.splitAt_eq inside]

theorem silenceTurn_mirrors (max interval : Nat) (buffer : Bytes) :
    (Modbus.Receive.silenceTurn max interval buffer).Mirrors readChunk some some
      (silenceTurn max interval buffer) := by
  have all : drained id buffer buffer.length = (some (.ok buffer), some []) := by
    rw [drained_checked id (Nat.le_refl _), List.take_length, List.drop_length]
    rfl
  unfold silenceTurn Modbus.Receive.silenceTurn
  split
  · exact .await (readMore_mirrors buffer _)
  · cases checkBufferBound max buffer with
    | error e => exact .stop
    | ok => exact .await ⟨rfl, fun _ fits => received_checked fits _, all, all, fun _ => rfl⟩

theorem contentTurn_mirrors (max : Nat) {checked : Direction → Bytes → Option (Result Extent)}
    {extent : Direction → Bytes → Result Extent} (direction : Direction)
    (same : ∀ direction bytes, checked direction bytes = some (extent direction bytes))
    (inside : ∀ direction bytes len, extent direction bytes = .ok (.complete len) → len ≤ bytes.length)
    (buffer : Bytes) : (Modbus.Receive.contentTurn max extent direction buffer).Mirrors readChunk some some
      (contentTurn max checked direction buffer) := by
  unfold contentTurn Modbus.Receive.contentTurn
  rw [same]
  rcases measured : extent direction buffer with e | _ | len
  · exact .stop
  · cases checkBufferBound max buffer with
    | error e => exact .stop
    | ok => exact .await (readMore_mirrors buffer _)
  · simp only [drained_checked id (inside direction buffer len measured)]
    exact .stop

theorem find_checked {needle : Bytes} (nonempty : needle ≠ []) (haystack : Bytes) (start : Nat) :
    find haystack needle start = some (Modbus.find haystack needle start) := by
  have size : needle.length ≠ 0 := fun none => nonempty (List.eq_nil_of_length_eq_zero none)
  exact Panic.ite_eq (fun _ => Panic.bind_eq (Panic.windows_eq size _) rfl) fun _ => rfl

theorem discard_checked {buffer : Bytes} {offset : Nat} (inside : offset ≤ buffer.length) :
    discard buffer offset = some (if offset > 0 then buffer.drop offset else buffer) := by
  refine Panic.ite_eq (fun _ => ?_) fun _ => rfl
  rw [Panic.splitAt_eq inside]
  rfl

theorem locate_checked (start : UInt8) {terminator : Bytes} (nonempty : terminator ≠ []) (state : Search) :
    locate start terminator state = some (Modbus.Receive.locate start terminator state) := by
  unfold locate Modbus.Receive.locate
  cases position : state.buffer.findIdx? (· == start) with
  | none => rfl
  | some offset =>
    have inside : offset ≤ state.buffer.length :=
      Nat.le_of_lt (List.findIdx?_eq_some_iff_getElem.mp position).1
    refine Panic.bind_eq (discard_checked inside) ?_
    refine Panic.bind_eq (find_checked nonempty _ _) ?_
    dsimp only
    generalize Modbus.find _ terminator _ = found
    cases found <;> rfl

theorem find_inside {haystack needle : Bytes} {start found : Nat} (nonempty : needle ≠ [])
    (finds : Modbus.find haystack needle start = some found) : found + needle.length ≤ haystack.length := by
  have positive := List.length_pos_iff.mpr nonempty
  rcases find_cases haystack needle start nonempty with ⟨other, _, finds', here, _⟩ | ⟨nowhere, _⟩
  · cases finds.symm.trans finds'
    have room := here.length_le
    rw [List.length_drop] at room
    omega
  · cases finds.symm.trans nowhere

/-- What is handed out is in the buffer. -/
theorem locate_inside {start : UInt8} {terminator : Bytes} (nonempty : terminator ≠ []) {state next : Search}
    {len : Nat} (found : Modbus.Receive.locate start terminator state = (some len, next)) :
    len ≤ next.buffer.length := by
  unfold Modbus.Receive.locate at found
  split at found
  · simp only at found
    split at found
    next finds =>
      cases found
      exact find_inside nonempty finds
    · cases found
  · cases found

theorem delimitedTurn_mirrors (max timeout : Nat) (start : UInt8) {terminator : Bytes}
    (nonempty : terminator ≠ []) (state : Search) :
    (Modbus.Receive.delimitedTurn max timeout start terminator state).Mirrors readChunk some some
      (delimitedTurn max timeout start terminator state) := by
  unfold delimitedTurn Modbus.Receive.delimitedTurn
  rw [locate_checked start nonempty]
  rcases located : Modbus.Receive.locate start terminator state with ⟨_ | len, next⟩
  · dsimp only
    cases checkBufferBound max next.buffer with
    | error e => exact .stop
    | ok => exact .await ⟨rfl, fun _ fits => received_checked fits _, rfl, rfl, fun _ => rfl⟩
  · simp only [drained_checked _ (locate_inside nonempty located)]
    exact .stop

/-- So a guarded loop comes to the end of the plain one. -/
theorem drive_guarded {turn : σ → Turn ReadFailure σ ρ} {image : σ → Turn ReadFailure (Option σ) (Option ρ)}
    (mirrors : ∀ state, (turn state).Mirrors readChunk some some (image state)) (limit : Option Nat) (state : σ)
    (stream : Line) :
    drive (guarded image) limit (some state) stream =
      ((drive turn limit state stream).1.map some, some (drive turn limit state stream).2.1,
        (drive turn limit state stream).2.2) :=
  drive_mirrors mirrors limit state stream

theorem loop_checked {turn : Bytes → Turn ReadFailure Bytes (Result α)}
    {image : Bytes → Turn ReadFailure (Option Bytes) (Option (Result α))}
    (mirrors : ∀ state, (turn state).Mirrors readChunk some some (image state)) (limit : Option Nat)
    (link : Link) : loop image limit link = some (Modbus.Receive.loop turn limit link) := by
  rw [loop, drive_guarded mirrors, Modbus.Receive.loop]
  rcases drive turn limit link.buffer link.stream with ⟨_ | result, buffer, stream⟩ <;> rfl

theorem fillTo_checked (max len : Nat) (limit : Option Nat) (link : Link) :
    fillTo max len limit link = some (Modbus.Receive.fillTo max len limit link) :=
  Panic.ite_eq (fun _ => rfl) fun _ => loop_checked (fillTurn_mirrors len) limit link

theorem andThen_checked {checked : Option (Option (Result α) × Link)} {first : Option (Result α) × Link}
    {next' : α → Link → Option (Option (Result β) × Link)} {next : α → Link → Option (Result β) × Link}
    (same : checked = some first)
    (continues : ∀ a link, first = (some (.ok a), link) → next' a link = some (next a link)) :
    andThen checked next' = some (Modbus.Receive.andThen first next) := by
  refine Panic.bind_eq same ?_
  rcases first with ⟨_ | e | a, link⟩
  · rfl
  · rfl
  · exact continues a link rfl

theorem readPrefixed_checked (max prefixLen : Nat) {checked : Bytes → Option (Result Nat)}
    {total : Bytes → Result Nat} (same : ∀ head, checked head = some (total head)) (limit : Option Nat)
    (link : Link) :
    readPrefixed max prefixLen checked limit link =
      some (Modbus.Receive.readPrefixed max prefixLen total limit link) := by
  refine andThen_checked (fillTo_checked max prefixLen limit link) fun _ middle filled => ?_
  have enough := (Modbus.Receive.fillTo_ok filled).2
  refine Panic.bind_eq (Panic.splitAt_eq enough) (Panic.bind_eq (same _) ?_)
  cases total (middle.buffer.take prefixLen) with
  | error e => rfl
  | ok len =>
    refine andThen_checked (fillTo_checked max len limit middle) fun _ last filling => ?_
    exact Panic.bind_eq (Panic.splitAt_eq (Modbus.Receive.fillTo_ok filling).2) rfl

theorem readDelimited_checked (max timeout : Nat) (start : UInt8) {terminator : Bytes}
    (nonempty : terminator ≠ []) (limit : Option Nat) (link : Link) :
    readDelimited max timeout start terminator limit link =
      some (Modbus.Receive.readDelimited max timeout start terminator limit link) := by
  rw [readDelimited, drive_guarded (delimitedTurn_mirrors max timeout start nonempty), Modbus.Receive.readDelimited]
  rcases drive (Modbus.Receive.delimitedTurn max timeout start terminator) limit ⟨link.buffer, 0⟩ link.stream with
    ⟨_ | result, state, stream⟩ <;> rfl

theorem readContentLength_checked (max min : Nat) {checked : Direction → Bytes → Option (Result Extent)}
    {extent : Direction → Bytes → Result Extent}
    (same : ∀ direction bytes, checked direction bytes = some (extent direction bytes))
    (inside : ∀ direction bytes len, extent direction bytes = .ok (.complete len) → len ≤ bytes.length)
    (direction : Direction) (limit : Option Nat) (link : Link) :
    readContentLength max min checked direction limit link =
      some (Modbus.Receive.readContentLength max min extent direction limit link) :=
  andThen_checked (fillTo_checked max min limit link) fun _ middle _ =>
    loop_checked (contentTurn_mirrors max direction same inside) limit middle

end Turns

end Receive

/-- A boundary rule whose functions never fail, and which points at bytes that are there. -/
inductive Boundary.Agrees : Boundary → AduBoundary → Prop
  | prefixed {prefixLen : Nat} {checked : Bytes → Option (Result Nat)} {total : Bytes → Result Nat}
      (same : ∀ head, checked head = some (total head)) :
      Agrees (.prefixed prefixLen checked) (.prefixed prefixLen total)
  | delimited {start : UInt8} {terminator : Bytes} (nonempty : terminator ≠ []) :
      Agrees (.delimited start terminator) (.delimited start terminator)
  | silence : Agrees .silence .silence
  | contentLength {min : Nat} {checked : Direction → Bytes → Option (Result Extent)}
      {extent : Direction → Bytes → Result Extent}
      (same : ∀ direction bytes, checked direction bytes = some (extent direction bytes))
      (inside : ∀ direction bytes len, extent direction bytes = .ok (.complete len) → len ≤ bytes.length) :
      Agrees (.contentLength min checked) (.contentLength min extent)

/-- No operation of the framing fails, and it receives what the plain one does. -/
structure Framing.Agrees (checked : Framing Header) (framing : Modbus.Framing Header) : Prop where
  maxAduLen : checked.maxAduLen = framing.maxAduLen
  decodeRequest : ∀ bytes, checked.decodeRequest bytes = some (framing.decodeRequest bytes)
  decodeResponse : ∀ bytes, checked.decodeResponse bytes = some (framing.decodeResponse bytes)
  boundary : checked.boundary.Agrees framing.boundary

theorem Framing.Agrees.readAdu {checked : Framing Header} {framing : Modbus.Framing Header}
    (agrees : checked.Agrees framing) (config : TransportConfig) (direction : Direction) (limit : Option Nat)
    (link : Link) :
    Receive.readAdu checked config direction limit link =
      some (Modbus.Receive.readAdu framing config direction limit link) := by
  have rule := agrees.boundary
  unfold Receive.readAdu Modbus.Receive.readAdu
  rw [agrees.maxAduLen]
  generalize checked.boundary = boundary at rule
  generalize framing.boundary = plain at rule
  cases rule with
  | prefixed same => exact Receive.readPrefixed_checked _ _ same limit link
  | delimited nonempty => exact Receive.readDelimited_checked _ _ _ nonempty limit link
  | silence => exact Receive.loop_checked (Receive.silenceTurn_mirrors _ _) limit link
  | contentLength same inside => exact Receive.readContentLength_checked _ _ same inside direction limit link

theorem opening_checked {checked : Bytes → Option (Result (Header × Bytes))} {split : Bytes → Result (Header × Bytes)}
    {decode' : Bytes → Option (Result α)} {decode : Bytes → Result α}
    (opens : ∀ bytes, checked bytes = some (split bytes)) (decodes : ∀ pdu, decode' pdu = some (decode pdu))
    (bytes : Bytes) :
    opening checked decode' bytes = some (do
      let (header, pdu) ← split bytes
      let decoded ← decode pdu
      pure (header, decoded)) := by
  refine Panic.bind_eq (opens bytes) ?_
  rcases split bytes with e | ⟨header, pdu⟩
  · rfl
  · refine Panic.bind_eq (decodes pdu) ?_
    show _ = some (decode pdu >>= fun decoded => pure (header, decoded))
    cases decode pdu <;> rfl

theorem enveloping_agrees {bits : Nat} (wide : 16 < bits) (maxAduLen : Nat)
    {checked : Bytes → Option (Result (Header × Bytes))} {split : Bytes → Result (Header × Bytes)}
    (wrapInto : Header → ByteWriter Error Unit → ByteWriter Error Unit) {boundary : Boundary} {plain : AduBoundary}
    (opens : ∀ bytes, checked bytes = some (split bytes)) (rule : boundary.Agrees plain) :
    (Framing.enveloping bits maxAduLen checked boundary).Agrees (.enveloping maxAduLen split wrapInto plain) where
  maxAduLen := rfl
  decodeRequest := opening_checked opens (decodeRequest_checked wide)
  decodeResponse := opening_checked opens (decodeResponse_checked wide)
  boundary := rule

/-- The framings there are. -/
inductive Kind where
  | tcp | rtu | rtuOverTcp | ascii
  deriving DecidableEq, Repr

namespace Kind

def Header : Kind → Type
  | tcp => MbapHeader
  | rtu | rtuOverTcp | ascii => UnitId

def framing (crc16 : Bytes → UInt16) : (kind : Kind) → Modbus.Framing kind.Header
  | tcp => Modbus.tcp
  | rtu => Modbus.rtu crc16
  | rtuOverTcp => Modbus.rtuOverTcp crc16
  | ascii => Modbus.ascii

def checked (crc16 : Bytes → UInt16) (bits : Nat) : (kind : Kind) → Framing kind.Header
  | tcp => Checked.tcp bits
  | rtu => Checked.rtu crc16 bits
  | rtuOverTcp => Checked.rtuOverTcp crc16 bits
  | ascii => Checked.ascii bits

theorem agrees (crc16 : Bytes → UInt16) {bits : Nat} (wide : 16 < bits) (kind : Kind) :
    (kind.checked crc16 bits).Agrees (kind.framing crc16) := by
  cases kind with
  | tcp => exact enveloping_agrees wide _ _ Tcp.split_checked (.prefixed fun _ => rfl)
  | rtu => exact enveloping_agrees wide _ _ (Rtu.split_checked crc16) .silence
  | rtuOverTcp =>
    exact enveloping_agrees wide _ _ (Rtu.split_checked crc16) (.contentLength (Rtu.deriveExtent_checked wide)
      fun _ _ _ complete => (Modbus.Rtu.deriveExtent_complete complete).2.1)
  | ascii => exact enveloping_agrees wide _ _ Ascii.split_checked (.delimited (by simp [Modbus.Ascii.terminator]))

end Kind

section Returns

variable {link : Link} {closing : Nat} (ends : link.stream.ending = some closing)
include ends

theorem loop_returns (turn : Bytes → Turn ReadFailure Bytes (Result α)) :
    ∃ result after, Modbus.Receive.loop turn none link = (some result, after) ∧
      after.stream.ending = some closing := by
  obtain ⟨result, buffer, stream, drove, same⟩ := drive_returns turn link.buffer ends
  refine ⟨result, ⟨stream, buffer⟩, ?_, same⟩
  rw [Modbus.Receive.loop, drove]

theorem fillTo_returns (max len : Nat) :
    ∃ result after, Modbus.Receive.fillTo max len none link = (some result, after) ∧
      after.stream.ending = some closing := by
  unfold Modbus.Receive.fillTo
  split
  · exact ⟨_, _, rfl, ends⟩
  · exact loop_returns ends _

/-- On a stream that ends every receive ends, with an ADU or an error. -/
theorem readAdu_returns (framing : Modbus.Framing Header) (config : TransportConfig) (direction : Direction) :
    ∃ result after, Modbus.Receive.readAdu framing config direction none link = (some result, after) := by
  unfold Modbus.Receive.readAdu
  cases framing.boundary with
  | prefixed prefixLen total =>
    obtain ⟨filled, middle, first, still⟩ := fillTo_returns ends framing.maxAduLen prefixLen
    simp only [Modbus.Receive.readPrefixed, first]
    cases filled with
    | error e => exact ⟨_, _, rfl⟩
    | ok =>
      simp only [Modbus.Receive.andThen]
      cases total (middle.buffer.take prefixLen) with
      | error e => exact ⟨_, _, rfl⟩
      | ok len =>
        obtain ⟨filled, last, second, _⟩ := fillTo_returns still framing.maxAduLen len
        simp only [second]
        cases filled <;> exact ⟨_, _, rfl⟩
  | delimited start terminator =>
    obtain ⟨result, state, stream, drove, _⟩ := drive_returns (Modbus.Receive.delimitedTurn framing.maxAduLen
      config.asciiInterCharacterTimeout start terminator) ⟨link.buffer, 0⟩ ends
    simp only [Modbus.Receive.readDelimited, drove]
    exact ⟨_, _, rfl⟩
  | silence =>
    obtain ⟨result, after, ran, _⟩ := loop_returns ends
      (Modbus.Receive.silenceTurn framing.maxAduLen config.interFrameInterval)
    exact ⟨result, after, ran⟩
  | contentLength min extent =>
    obtain ⟨filled, middle, first, still⟩ := fillTo_returns ends framing.maxAduLen min
    simp only [Modbus.Receive.readContentLength, first]
    cases filled with
    | error e => exact ⟨_, _, rfl⟩
    | ok =>
      obtain ⟨result, after, ran, _⟩ := loop_returns still
        (Modbus.Receive.contentTurn framing.maxAduLen extent direction)
      exact ⟨result, after, ran⟩

end Returns

/-- Nothing a peer sends makes the receiving side panic: every operation of decoders, envelopes and
readers has a value, on any bytes in any reads. -/
theorem peer_input_never_panics (crc16 : Bytes → UInt16) {bits : Nat} (wide : 16 < bits) (kind : Kind)
    (config : TransportConfig) (direction : Direction) (limit : Option Nat) (bytes : Bytes) (link : Link) :
    decodeRequest bits bytes = some (RequestPdu.decode bytes) ∧
      decodeResponse bits bytes = some (ResponsePdu.decode bytes) ∧
      Rtu.deriveExtent bits direction bytes = some (Modbus.Rtu.deriveExtent direction bytes) ∧
      (kind.checked crc16 bits).decodeRequest bytes = some ((kind.framing crc16).decodeRequest bytes) ∧
      (kind.checked crc16 bits).decodeResponse bytes = some ((kind.framing crc16).decodeResponse bytes) ∧
      Receive.readAdu (kind.checked crc16 bits) config direction limit link =
        some (Modbus.Receive.readAdu (kind.framing crc16) config direction limit link) ∧
      ∀ closing, link.stream.ending = some closing → ∃ result after,
        Receive.readAdu (kind.checked crc16 bits) config direction none link = some (some result, after) := by
  have agrees := kind.agrees crc16 wide
  refine ⟨decodeRequest_checked wide bytes, decodeResponse_checked wide bytes,
    Rtu.deriveExtent_checked wide direction bytes, agrees.decodeRequest bytes, agrees.decodeResponse bytes,
    agrees.readAdu config direction limit link, fun closing ends => ?_⟩
  obtain ⟨result, after, ran⟩ := readAdu_returns ends (kind.framing crc16) config direction
  exact ⟨result, after, by rw [agrees.readAdu, ran]⟩

/-- The largest count a peer can announce. -/
theorem largest_count_refused :
    Rtu.deriveExtent 64 .response [0x01, 0x18, 0xFF, 0xFF, 0x00] = some (.error (.aduTooLarge 65541 256)) :=
  (peer_input_never_panics Modbus.Rtu.crc16Modbus (by omega) .rtuOverTcp .default .response none
    [0x01, 0x18, 0xFF, 0xFF, 0x00] ⟨⟨0, [], none, .exact⟩, []⟩).2.2.1.trans rfl

end Modbus.Checked
