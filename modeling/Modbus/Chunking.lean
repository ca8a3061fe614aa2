import Mathlib.Data.List.GetD
import Modbus.StreamFraming

/-! What a stream framing makes of its bytes does not depend on where reads were
cut. Extents are stable: what the front of a stream says of its first frame, more
bytes say too. Receiving then comes to one outcome for all the bytes ahead. -/
namespace Modbus

open Bytes ByteStream

/-- The extent of some bytes against that of more. An extent once known stays; one still
open with `max` bytes in hand can only be refused as too large. -/
def Agrees (max size : Nat) : Result Extent → Result Extent → Prop
  | .ok (.complete len), longer => longer = .ok (.complete len) ∧ len ≤ size
  | .error e, longer => longer = .error e
  | .ok .needMore, longer => max ≤ size →
      longer = .ok .needMore ∨ ∃ len, longer = .error (.aduTooLarge len max)

def Stable (max : Nat) (extent : Bytes → Result Extent) : Prop :=
  ∀ bytes more, Agrees max bytes.length (extent bytes) (extent (bytes ++ more))

theorem agrees_short {max size : Nat} (short : size < max) (longer : Result Extent) :
    Agrees max size (.ok .needMore) longer := by
  intro full
  omega

namespace Rtu

variable (bytes more : Bytes)

theorem checkExtent_agrees (totalLen : Nat) :
    Agrees maxAduLen bytes.length (checkExtent bytes totalLen) (checkExtent (bytes ++ more) totalLen) := by
  unfold checkExtent
  by_cases large : totalLen > maxAduLen
  · rw [if_pos large, if_pos large]
    rfl
  · rw [if_neg large, if_neg large]
    by_cases short : bytes.length < totalLen
    · rw [if_pos short]
      exact agrees_short (by omega) _
    · rw [if_neg short, if_neg (by rw [List.length_append]; omega)]
      exact ⟨rfl, by omega⟩

/-- A length once announced is announced by more bytes as well. -/
def Settled (found longer : Result (Option Nat)) : Prop :=
  longer = found ∨ found = .ok none ∧ bytes.length < maxAduLen

variable {bytes} in
theorem Settled.ite {c : Prop} [Decidable c] {here longer other other' : Result (Option Nat)}
    (first : Settled bytes here longer) (second : Settled bytes other other') :
    Settled bytes (if c then here else other) (if c then longer else other') := by
  by_cases holds : c
  · rw [if_pos holds, if_pos holds]
    exact first
  · rw [if_neg holds, if_neg holds]
    exact second

theorem finishExtent_agrees {found longer : Result (Option Nat)} (settled : Settled bytes found longer) :
    Agrees maxAduLen bytes.length (finishExtent bytes found) (finishExtent (bytes ++ more) longer) := by
  rcases settled with rfl | ⟨rfl, short⟩
  · rcases longer with e | _ | pduLen
    · rfl
    · exact fun _ => .inl rfl
    · exact checkExtent_agrees bytes more _
  · exact agrees_short short _

theorem longer {limit : Nat} (enough : ¬bytes.length < limit) : ¬(bytes ++ more).length < limit := by
  rw [List.length_append]
  omega

theorem count_settled {limit offset : Nat} (base : Nat) (covered : offset < limit) (few : limit ≤ maxAduLen) :
    Settled bytes
      (if bytes.length < limit then .ok none else .ok (some (base + (bytes.getD offset 0).toNat)))
      (if (bytes ++ more).length < limit then .ok none
        else .ok (some (base + ((bytes ++ more).getD offset 0).toNat))) := by
  by_cases short : bytes.length < limit
  · exact .inr ⟨if_pos short, by omega⟩
  · left
    rw [if_neg short, if_neg (longer bytes more short), List.getD_append _ _ _ _ (by omega)]

theorem requestPduLen_settled (fc : UInt8) (enough : 4 ≤ bytes.length) :
    Settled bytes (requestPduLen fc bytes) (requestPduLen fc (bytes ++ more)) := by
  have known : ¬bytes.length < 3 := by omega
  have interface : Settled bytes
      (if bytes.length < 3 then .ok none
        else if bytes.getD 2 0 = 0x0E then .ok (some 4) else .error (.indeterminateLength fc))
      (if (bytes ++ more).length < 3 then .ok none
        else if (bytes ++ more).getD 2 0 = 0x0E then .ok (some 4) else .error (.indeterminateLength fc)) := by
    left
    rw [if_neg known, if_neg (longer bytes more known), List.getD_append _ _ _ _ (by omega)]
  unfold requestPduLen
  apply Settled.ite (.inl rfl)
  apply Settled.ite (.inl rfl)
  apply Settled.ite (.inl rfl)
  apply Settled.ite (.inl rfl)
  apply Settled.ite (count_settled bytes more 6 (by decide) (by decide))
  apply Settled.ite (count_settled bytes more 2 (by decide) (by decide))
  apply Settled.ite (count_settled bytes more 10 (by decide) (by decide))
  exact Settled.ite interface (.inl rfl)

theorem responsePduLen_settled (fc : UInt8) :
    Settled bytes (responsePduLen fc bytes) (responsePduLen fc (bytes ++ more)) := by
  have queue : Settled bytes
      (if bytes.length < 5 then .ok none
        else .ok (some (3 + (ofBe (bytes.getD 2 0) (bytes.getD 3 0)).toNat)))
      (if (bytes ++ more).length < 5 then .ok none
        else .ok (some (3 + (ofBe ((bytes ++ more).getD 2 0) ((bytes ++ more).getD 3 0)).toNat))) := by
    by_cases short : bytes.length < 5
    · exact .inr ⟨if_pos short, by simp only [maxAduLen]; omega⟩
    · left
      rw [if_neg short, if_neg (longer bytes more short), List.getD_append _ _ _ _ (by omega),
        List.getD_append _ _ _ _ (by omega)]
  unfold responsePduLen
  apply Settled.ite (.inl rfl)
  apply Settled.ite (.inl rfl)
  apply Settled.ite (.inl rfl)
  apply Settled.ite (count_settled bytes more 2 (by decide) (by decide))
  exact Settled.ite queue (.inl rfl)

/-- The walk over the objects on more bytes goes the same way, and where it stopped for lack
of bytes it goes past them or stops again. -/
theorem walkObjects_append (objects pduOffset : Nat) :
    match walkObjects bytes objects pduOffset with
    | some stop => walkObjects (bytes ++ more) objects pduOffset = some stop
    | none => ∀ stop, walkObjects (bytes ++ more) objects pduOffset = some stop →
        bytes.length < addressLen + stop := by
  induction objects generalizing pduOffset with
  | zero => rfl
  | succ objects ih =>
    simp only [walkObjects]
    by_cases short : addressLen + pduOffset + 2 > bytes.length
    · rw [if_pos short]
      intro stop ended
      split at ended
      · cases ended
      · have further := (walkObjects_range ended).1
        omega
    · rw [if_neg short, if_neg (by rw [List.length_append]; omega), List.getD_append _ _ _ _ (by omega)]
      exact ih _

theorem deriveFc43Mei14ResponseLength_agrees :
    Agrees maxAduLen bytes.length (deriveFc43Mei14ResponseLength bytes)
      (deriveFc43Mei14ResponseLength (bytes ++ more)) := by
  unfold deriveFc43Mei14ResponseLength
  by_cases short : bytes.length < addressLen + headerPduBytes + crcLen
  · rw [if_pos short]
    exact agrees_short (Nat.lt_of_lt_of_le short (by decide)) _
  · have reaches : addressLen + 6 < bytes.length := by
      simp only [addressLen, headerPduBytes, crcLen] at short ⊢
      omega
    rw [if_neg short, if_neg (longer bytes more short), List.getD_append _ _ _ _ reaches]
    have walks := walkObjects_append bytes more (bytes.getD (addressLen + 6) 0).toNat headerPduBytes
    cases walked : walkObjects bytes (bytes.getD (addressLen + 6) 0).toNat headerPduBytes with
    | some stop =>
      simp only [walked] at walks
      rw [walks]
      exact checkExtent_agrees bytes more _
    | none =>
      simp only [walked] at walks
      intro full
      cases longer : walkObjects (bytes ++ more) (bytes.getD (addressLen + 6) 0).toNat headerPduBytes with
      | none => exact .inl rfl
      | some stop =>
        have beyond := walks stop longer
        refine .inr ⟨addressLen + stop + crcLen, ?_⟩
        simp only [checkExtent]
        rw [if_pos (by omega)]

theorem deriveExtent_stable (direction : Direction) : Stable maxAduLen (deriveExtent direction) := by
  intro bytes more
  unfold deriveExtent
  by_cases short : bytes.length < 4
  · rw [if_pos short]
    exact agrees_short (Nat.lt_of_lt_of_le short (by decide)) _
  · rw [if_neg short, if_neg (longer bytes more short), List.getD_append _ _ _ _ (by omega)]
    simp only
    split
    · exact finishExtent_agrees bytes more (.inl rfl)
    · cases direction with
      | request => exact finishExtent_agrees bytes more (requestPduLen_settled bytes more _ (by omega))
      | response =>
        simp only
        split
        · have known : ¬bytes.length < 3 := by omega
          rw [if_neg known, if_neg (longer bytes more known), List.getD_append _ _ _ _ (by omega)]
          split
          · exact deriveFc43Mei14ResponseLength_agrees bytes more
          · rfl
        · exact finishExtent_agrees bytes more (responsePduLen_settled bytes more _)

end Rtu

/-- The extent of a frame whose first `prefixLen` bytes give its length. -/
def prefixedExtent (prefixLen : Nat) (total : Bytes → Result Nat) (bytes : Bytes) : Result Extent :=
  if bytes.length < prefixLen then .ok .needMore
  else match total (bytes.take prefixLen) with
    | .error e => .error e
    | .ok len => if bytes.length < len then .ok .needMore else .ok (.complete len)

/-- What all the bytes up to the end of the stream say of the next frame: how long it is, or
why there is none. -/
def nextFrame (max : Nat) (extent : Bytes → Result Extent) (bytes : Bytes) : Result Nat :=
  match extent bytes with
  | .error e => .error e
  | .ok (.complete len) => .ok len
  | .ok .needMore =>
    .error (if max ≤ bytes.length then .aduTooLarge bytes.length max else endOfStream (!bytes.isEmpty))

/-- An error without the length that an oversized frame reports. -/
def Error.unmeasured : Error → Error
  | .aduTooLarge _ max => .aduTooLarge 0 max
  | e => e

/-- A receive comes to what the bytes ahead say. -/
def Finds (closing : Nat) (bytes : Bytes) (found : Result Nat) (result : Result Bytes) (after : Link) : Prop :=
  match found with
  | .ok len => result = .ok (bytes.take len) ∧ after.Ahead (some closing) (bytes.drop len)
  | .error e => ∃ reported, result = .error reported ∧ reported.unmeasured = e.unmeasured

namespace Receive

variable {closing : Nat} {link : Link} {bytes : Bytes}

theorem fillTo_short {max len : Nat} (ahead : link.Ahead (some closing) bytes) (small : len ≤ max)
    (short : bytes.length < len) :
    ∃ after, fillTo max len none link = (some (.error (endOfStream (!bytes.isEmpty))), after) := by
  obtain ⟨same, unread, carries, whole⟩ := ahead
  obtain ⟨result, buffer, stream, left, drove, _, _, settles⟩ := drive_concludes (fillTurn len)
    (fun buffer unread => bytes = buffer ++ unread)
    (fun result _ _ => result = .error (endOfStream (!bytes.isEmpty)))
    (fun buffer unread whole => by
      have lengths := congrArg List.length whole
      rw [List.length_append] at lengths
      refine .inr ⟨buffer, readMore buffer (!buffer.isEmpty), by rw [fillTurn, if_pos (by omega)], rfl,
        ?_, ?_⟩
      · rintro chunk rest - rfl
        simpa [readMore] using whole
      · rintro rfl
        rw [List.append_nil] at whole
        rw [whole]
        rfl) link.stream link.buffer same carries whole
  subst settles
  refine ⟨⟨stream, buffer⟩, ?_⟩
  rw [fillTo, if_neg (by omega), loop, drove]

theorem readPrefixed_finds {max prefixLen : Nat} {total : Bytes → Result Nat} (small : prefixLen ≤ max)
    (fits : ∀ head len, total head = .ok len → prefixLen ≤ len ∧ len ≤ max)
    (ahead : link.Ahead (some closing) bytes) :
    ∃ result after, readPrefixed max prefixLen total none link = (some result, after) ∧
      Finds closing bytes (nextFrame max (prefixedExtent prefixLen total) bytes) result after := by
  by_cases short : bytes.length < prefixLen
  · obtain ⟨after, filled⟩ := fillTo_short ahead small short
    refine ⟨_, after, by rw [readPrefixed, filled]; rfl, ?_⟩
    simp only [nextFrame, prefixedExtent, if_pos short, if_neg (Nat.not_le_of_lt (Nat.lt_of_lt_of_le short small))]
    exact ⟨_, rfl, rfl⟩
  · obtain ⟨middle, filled, still, reached⟩ := fillTo_ahead ahead small (by omega)
    have front : middle.buffer.take prefixLen = bytes.take prefixLen := by
      obtain ⟨_, unread, _, split⟩ := still
      rw [split, List.take_append_of_le_length reached]
    cases announced : total (bytes.take prefixLen) with
    | error e =>
      refine ⟨.error e, middle, ?_, ?_⟩
      · simp only [readPrefixed, filled, andThen, front, announced]
      · simp only [nextFrame, prefixedExtent, if_neg short, announced]
        exact ⟨e, rfl, rfl⟩
    | ok len =>
      obtain ⟨long, bounded⟩ := fits _ _ announced
      by_cases partly : bytes.length < len
      · obtain ⟨after, filling⟩ := fillTo_short still bounded partly
        refine ⟨_, after, by simp only [readPrefixed, filled, andThen, front, announced, filling]; rfl, ?_⟩
        simp only [nextFrame, prefixedExtent, if_neg short, announced, if_pos partly,
          if_neg (Nat.not_le_of_lt (Nat.lt_of_lt_of_le partly bounded))]
        exact ⟨_, rfl, rfl⟩
      · obtain ⟨last, filling, ready, complete⟩ := fillTo_ahead still bounded (by omega)
        have size : (bytes.take len).length = len := by
          rw [List.length_take]
          omega
        have cut : last.Ahead (some closing) (bytes.take len ++ bytes.drop len) := by
          rwa [List.take_append_drop]
        obtain ⟨taken, remaining⟩ := take_ahead cut (by omega)
        rw [size] at taken remaining
        refine ⟨.ok (bytes.take len), ⟨last.stream, last.buffer.drop len⟩, ?_, ?_⟩
        · simp only [readPrefixed, filled, andThen, front, announced, filling, take, taken]
        · simp only [nextFrame, prefixedExtent, if_neg short, announced, if_neg partly]
          exact ⟨rfl, remaining⟩

theorem readContentLength_finds {max min : Nat} {extent : Direction → Bytes → Result Extent}
    {direction : Direction} (stable : Stable max (extent direction)) (small : min ≤ max) (some_bytes : 0 < min)
    (patient : ∀ front, front.length < min → extent direction front = .ok .needMore)
    (ahead : link.Ahead (some closing) bytes) :
    ∃ result after, readContentLength max min extent direction none link = (some result, after) ∧
      Finds closing bytes (nextFrame max (extent direction) bytes) result after := by
  by_cases short : bytes.length < min
  · obtain ⟨after, filled⟩ := fillTo_short ahead small short
    refine ⟨_, after, by rw [readContentLength, filled]; rfl, ?_⟩
    simp only [nextFrame, patient bytes short,
      if_neg (Nat.not_le_of_lt (Nat.lt_of_lt_of_le short small))]
    exact ⟨_, rfl, rfl⟩
  · obtain ⟨middle, filled, ⟨same, unread, carries, whole⟩, reached⟩ := fillTo_ahead ahead small (by omega)
    obtain ⟨result, buffer, stream, left, drove, ends, carries, settles⟩ :=
      drive_concludes (contentTurn max extent direction)
        (fun buffer unread => bytes = buffer ++ unread)
        (fun result buffer left => match nextFrame max (extent direction) bytes with
          | .ok len => result = .ok (bytes.take len) ∧ bytes.drop len = buffer ++ left
          | .error e => ∃ reported, result = .error reported ∧ reported.unmeasured = e.unmeasured)
        (fun buffer unread whole => by
          have agrees := stable buffer unread
          rw [← whole] at agrees
          unfold contentTurn
          rcases found : extent direction buffer with e | _ | len
          · rw [found] at agrees
            refine .inl ⟨.error e, buffer, rfl, ?_⟩
            simp only [nextFrame, show extent direction bytes = _ from agrees]
            exact ⟨e, rfl, rfl⟩
          · rw [found] at agrees
            by_cases full : max ≤ buffer.length
            · have larger : max ≤ bytes.length := by
                rw [whole, List.length_append]
                omega
              refine .inl ⟨.error (.aduTooLarge buffer.length max), buffer, ?_, ?_⟩
              · simp only [checkBufferBound, if_pos full]
              · rcases agrees full with same | ⟨len, same⟩
                · simp only [nextFrame, same, if_pos larger]
                  exact ⟨_, rfl, rfl⟩
                · simp only [nextFrame, same]
                  exact ⟨_, rfl, rfl⟩
            · refine .inr ⟨buffer, readMore buffer true, ?_, rfl, ?_, ?_⟩
              · simp only [checkBufferBound, if_neg full]
              · rintro chunk rest - rfl
                simpa [readMore] using whole
              · rintro rfl
                rw [List.append_nil] at whole
                have begun : bytes.isEmpty = false := by
                  rw [List.isEmpty_eq_false_iff]
                  rintro rfl
                  simp at short
                  omega
                subst whole
                simp only [nextFrame, found, if_neg full, begun]
                exact ⟨_, rfl, rfl⟩
          · rw [found] at agrees
            obtain ⟨same, within⟩ := agrees
            refine .inl ⟨.ok (buffer.take len), buffer.drop len, rfl, ?_⟩
            simp only [nextFrame, same]
            rw [whole, List.take_append_of_le_length within, List.drop_append_of_le_length within]
            exact ⟨rfl, rfl⟩)
        middle.stream middle.buffer same carries whole
    refine ⟨result, ⟨stream, buffer⟩, by simp only [readContentLength, filled, andThen, loop, drove], ?_⟩
    unfold Finds
    cases found : nextFrame max (extent direction) bytes with
    | error e =>
      rw [found] at settles
      exact settles
    | ok len =>
      rw [found] at settles
      exact ⟨settles.1, ends, left, carries, settles.2⟩

end Receive

/-- The ADUs before the first error, and that error up to the length it reports. -/
def observed : List (Option (Result Bytes)) → List Bytes × Option Error
  | some (.ok adu) :: rest => (adu :: (observed rest).1, (observed rest).2)
  | some (.error e) :: _ => ([], some e.unmeasured)
  | _ => ([], none)

def frames (max : Nat) (extent : Direction → Bytes → Result Extent) :
    List Direction → Bytes → List Bytes × Option Error
  | [], _ => ([], none)
  | direction :: rest, bytes =>
    match nextFrame max (extent direction) bytes with
    | .error e => ([], some e.unmeasured)
    | .ok len =>
      (bytes.take len :: (frames max extent rest (bytes.drop len)).1, (frames max extent rest (bytes.drop len)).2)

theorem observed_recvEach {framing : Framing Header} {config : TransportConfig} {closing : Nat}
    {extent : Direction → Bytes → Result Extent}
    (finds : ∀ direction link bytes, Link.Ahead link (some closing) bytes →
      ∃ result after, Receive.readAdu framing config direction none link = (some result, after) ∧
        Finds closing bytes (nextFrame framing.maxAduLen (extent direction) bytes) result after)
    (calls : List Direction) {link : Link} {bytes : Bytes} (ahead : link.Ahead (some closing) bytes) :
    observed (recvEach framing config calls ⟨link, false⟩).1 = frames framing.maxAduLen extent calls bytes := by
  induction calls generalizing link bytes with
  | nil => rfl
  | cons direction rest ih =>
    obtain ⟨result, after, reading, found⟩ := finds direction link bytes ahead
    rw [frames]
    cases next : nextFrame framing.maxAduLen (extent direction) bytes with
    | error e =>
      rw [next] at found
      obtain ⟨reported, rfl, same⟩ := found
      simp only [recvEach, recvAdu, reading, observed, Bool.false_eq_true, if_false, same]
    | ok len =>
      rw [next] at found
      obtain ⟨rfl, rest⟩ := found
      have others := ih rest
      simp only [recvEach, recvAdu, reading, Bool.false_eq_true, if_false, observed, others]

theorem Tcp.aduLen_bounds (head : Bytes) (len : Nat) (announced : Tcp.aduLen head = .ok len) :
    Tcp.lengthPrefixLen ≤ len ∧ len ≤ Tcp.maxAduLen := by
  obtain ⟨_, _, _, _, _, _, _, _, inside, rfl⟩ := Tcp.aduLen_ok.mp announced
  simp only [Tcp.lengthPrefixLen, Tcp.maxAduLen]
  omega

theorem tcp_finds (config : TransportConfig) {closing : Nat} (direction : Direction) (link : Link)
    (bytes : Bytes) (ahead : link.Ahead (some closing) bytes) :
    ∃ result after, Receive.readAdu tcp config direction none link = (some result, after) ∧
      Finds closing bytes
        (nextFrame tcp.maxAduLen (prefixedExtent Tcp.lengthPrefixLen Tcp.aduLen) bytes) result after :=
  Receive.readPrefixed_finds (by decide) Tcp.aduLen_bounds ahead

theorem rtuOverTcp_finds (crc16 : Bytes → UInt16) (config : TransportConfig) {closing : Nat}
    (direction : Direction) (link : Link) (bytes : Bytes) (ahead : link.Ahead (some closing) bytes) :
    ∃ result after, Receive.readAdu (rtuOverTcp crc16) config direction none link = (some result, after) ∧
      Finds closing bytes (nextFrame (rtuOverTcp crc16).maxAduLen (Rtu.deriveExtent direction) bytes)
        result after := by
  apply Receive.readContentLength_finds (Rtu.deriveExtent_stable direction) (by decide) (by decide) _ ahead
  intro front short
  exact if_pos short

theorem chunking_unobservable (crc16 : Bytes → UInt16) (config : TransportConfig) (bytes : Bytes)
    (first second : Reads) (now now' closing closing' : Nat) (timer timer' : Timer)
    (calls : List Direction)
    (carried : Carries first bytes) (carried' : Carries second bytes) :
    observed (recvEach tcp config calls (.new ⟨now, first, some closing, timer⟩)).1 =
      observed (recvEach tcp config calls (.new ⟨now', second, some closing', timer'⟩)).1 ∧
    observed (recvEach (rtuOverTcp crc16) config calls (.new ⟨now, first, some closing, timer⟩)).1 =
      observed (recvEach (rtuOverTcp crc16) config calls (.new ⟨now', second, some closing', timer'⟩)).1 := by
  have ahead : Link.Ahead ⟨⟨now, first, some closing, timer⟩, []⟩ (some closing) bytes :=
    ⟨rfl, bytes, carried, rfl⟩
  have ahead' : Link.Ahead ⟨⟨now', second, some closing', timer'⟩, []⟩ (some closing') bytes :=
    ⟨rfl, bytes, carried', rfl⟩
  refine ⟨?_, ?_⟩
  · calc
      _ = frames tcp.maxAduLen _ calls bytes := observed_recvEach (tcp_finds config) calls ahead
      _ = _ := (observed_recvEach (tcp_finds config) calls ahead').symm
  · calc
      _ = frames (rtuOverTcp crc16).maxAduLen _ calls bytes :=
        observed_recvEach (rtuOverTcp_finds crc16 config) calls ahead
      _ = _ := (observed_recvEach (rtuOverTcp_finds crc16 config) calls ahead').symm

/-- A frame and the beginning of another, cut inside the header or not at all. -/
theorem cut_header_unobserved :
    observed (recvEach tcp .default [.request, .request] (.new ⟨0,
      [⟨0, .ok ⟨[0, 1, 0], by decide⟩⟩, ⟨5, .ok ⟨[0, 0, 2, 17, 7, 9], by decide⟩⟩], some 9, .exact⟩)).1 =
      observed (recvEach tcp .default [.request, .request] (.new ⟨2,
        [⟨3, .ok ⟨[0, 1, 0, 0, 0, 2, 17, 7, 9], by decide⟩⟩], some 4, .exact⟩)).1 := by
  apply (chunking_unobservable (fun _ => 0) .default [0, 1, 0, 0, 0, 2, 17, 7, 9] _ _ _ _ _ _ _ _ _ _ _).1
  · exact .cons (by decide) (.cons (by decide) .nil)
  · exact .cons (by decide) .nil

end Modbus
