import Modbus.ByteWords

/-! Fallible writers that append to a caller's buffer. What a failed writer has
already appended stays behind; `restoring` is the discipline that removes it.
`Appends` gives a writer its meaning: the bytes it adds, or the error it ends in,
neither depending on what the buffer held before. -/
namespace Bytes

/-- A writer returns its result and the buffer it leaves, also when it fails. -/
structure ByteWriter (ε α : Type) where
  run : Bytes → Except ε α × Bytes

namespace ByteWriter

protected def bind (w : ByteWriter ε α) (f : α → ByteWriter ε β) : ByteWriter ε β := ⟨fun out =>
  match w.run out with
  | (.ok a, after) => (f a).run after
  | (.error e, after) => (.error e, after)⟩

instance : Monad (ByteWriter ε) where
  pure a := ⟨fun out => (.ok a, out)⟩
  bind := ByteWriter.bind

@[simp] theorem run_pure (a : α) (out : Bytes) :
    (pure a : ByteWriter ε α).run out = (.ok a, out) := rfl

@[simp] theorem run_bind (w : ByteWriter ε α) (f : α → ByteWriter ε β) (out : Bytes) :
    (w >>= f).run out = match w.run out with
      | (.ok a, after) => (f a).run after
      | (.error e, after) => (.error e, after) := rfl

def push (byte : UInt8) : ByteWriter ε Unit := ⟨fun out => (.ok (), out ++ [byte])⟩

def extend (data : Bytes) : ByteWriter ε Unit := ⟨fun out => (.ok (), out ++ data)⟩

def length : ByteWriter ε Nat := ⟨fun out => (.ok out.length, out)⟩

/-- What was written from index `start` on. -/
def since (start : Nat) : ByteWriter ε Bytes := ⟨fun out => (.ok (out.drop start), out)⟩

def lift (x : Except ε α) : ByteWriter ε α := ⟨fun out => (x, out)⟩

/-- Overwrite already written bytes in place, starting at index `start`. -/
def patch (start : Nat) (data : Bytes) : ByteWriter ε Unit :=
  ⟨fun out => (.ok (), out.take start ++ data ++ out.drop (start + data.length))⟩

/-- Cut the buffer back to its former length when the writer fails. -/
def restoring (w : ByteWriter ε Unit) : ByteWriter ε Unit := ⟨fun out =>
  match w.run out with
  | (.ok (), after) => (.ok (), after)
  | (.error e, after) => (.error e, after.take out.length)⟩

/-- Run on a fresh buffer and return it. -/
def allocating (w : ByteWriter ε Unit) : Except ε Bytes :=
  match w.run [] with
  | (.ok (), out) => .ok out
  | (.error e, _) => .error e

def Appends (w : ByteWriter ε Unit) : Except ε Bytes → Prop
  | .ok data => ∀ out, w.run out = (.ok (), out ++ data)
  | .error e => ∀ out, ∃ part, w.run out = (.error e, out ++ part)

/-- What two writers in sequence add. -/
def both (first second : Except ε Bytes) : Except ε Bytes :=
  match first, second with
  | .ok a, .ok b => .ok (a ++ b)
  | .error e, _ => .error e
  | .ok _, .error e => .error e

@[simp] theorem both_ok {first second : Except ε Bytes} {data : Bytes} :
    both first second = .ok data ↔
      ∃ a b, first = .ok a ∧ second = .ok b ∧ data = a ++ b := by
  cases first <;> cases second <;> simp [both, eq_comm]

/-- What one writer per element, in order, adds. -/
def each (f : α → Except ε Bytes) : List α → Except ε Bytes
  | [] => .ok []
  | a :: as => both (f a) (each f as)

/-- Elements with a fixed layout and a validity check add the concatenated layouts. -/
theorem each_ok {f : α → Except ε Bytes} {layout : α → Bytes} {valid : α → Prop}
    (element : ∀ a data, f a = .ok data ↔ data = layout a ∧ valid a) (as : List α) (data : Bytes) :
    each f as = .ok data ↔ data = as.flatMap layout ∧ ∀ a ∈ as, valid a := by
  induction as generalizing data with
  | nil => simp [each, eq_comm]
  | cons a as ih =>
    simp only [each, both_ok, element, ih, List.flatMap_cons, List.forall_mem_cons]
    constructor
    · rintro ⟨_, _, ⟨rfl, head⟩, ⟨rfl, tail⟩, rfl⟩
      exact ⟨rfl, head, tail⟩
    · rintro ⟨rfl, head, tail⟩
      exact ⟨_, _, ⟨rfl, head⟩, ⟨rfl, tail⟩, rfl⟩

def forEach (encode : α → ByteWriter ε Unit) : List α → ByteWriter ε Unit
  | [] => pure ()
  | a :: as => do
    encode a
    forEach encode as

theorem Appends.push (byte : UInt8) : Appends (push byte : ByteWriter ε Unit) (.ok [byte]) :=
  fun _ => rfl

theorem Appends.extend (data : Bytes) : Appends (extend data : ByteWriter ε Unit) (.ok data) :=
  fun _ => rfl

theorem Appends.pure : Appends (pure () : ByteWriter ε Unit) (.ok []) := by
  intro out
  simp

theorem Appends.seq {w v : ByteWriter ε Unit} {r s : Except ε Bytes}
    (first : Appends w r) (second : Appends v s) :
    Appends (do w; v) (both r s) := by
  cases r with
  | error e =>
    intro out
    obtain ⟨part, left⟩ := first out
    exact ⟨part, by simp [left]⟩
  | ok a =>
    cases s with
    | error e =>
      intro out
      obtain ⟨part, right⟩ := second (out ++ a)
      exact ⟨a ++ part, by simp [first out, right]⟩
    | ok b =>
      intro out
      simp [first out, second (out ++ a)]

theorem Appends.forEach {encode : α → ByteWriter ε Unit} {f : α → Except ε Bytes}
    (element : ∀ a, Appends (encode a) (f a)) (as : List α) :
    Appends (forEach encode as) (each f as) := by
  induction as with
  | nil => exact .pure
  | cons a as ih => exact .seq (element a) ih

/-- A check of what was written, measured from where the writer began. -/
theorem Appends.measured {w : ByteWriter ε Unit} {r : Except ε Bytes} {check : Nat → Except ε Unit}
    (body : Appends w r) :
    Appends (do
        let start ← length
        w
        let stop ← length
        lift (check (stop - start)))
      (r >>= fun data => check data.length >>= fun _ => .ok data) := by
  cases r with
  | error e =>
    intro out
    obtain ⟨part, left⟩ := body out
    exact ⟨part, by simp [length, left]⟩
  | ok a =>
    show Appends _ (check a.length >>= fun _ => .ok a)
    cases checked : check a.length with
    | error e => exact fun out => ⟨a, by simp [body out, length, checked, lift]⟩
    | ok u =>
      intro out
      simp [body out, length, checked, lift]

/-- A placeholder byte patched with the length of what follows it, once that is checked. -/
theorem Appends.counted {w : ByteWriter ε Unit} {r : Except ε Bytes} {check : Nat → Except ε Unit}
    {head : Nat → UInt8} (body : Appends w r) :
    Appends (do
        let start ← length
        ByteWriter.push 0
        w
        let stop ← length
        lift (check (stop - start - 1))
        patch start [head (stop - start - 1)])
      (r >>= fun data => check data.length >>= fun _ => .ok (head data.length :: data)) := by
  cases r with
  | error e =>
    intro out
    obtain ⟨part, left⟩ := body (out ++ [0])
    exact ⟨0 :: part, by simp [length, ByteWriter.push, left]⟩
  | ok a =>
    have measured : ∀ out : Bytes, (out ++ [0] ++ a).length - out.length - 1 = a.length := by
      intro out
      simp only [List.length_append, List.length_singleton]
      omega
    show Appends _ (check a.length >>= fun _ => .ok (head a.length :: a))
    cases checked : check a.length with
    | error e =>
      intro out
      refine ⟨0 :: a, ?_⟩
      simp only [run_bind, length, ByteWriter.push, body (out ++ [0]), lift, measured, checked]
      simp
    | ok u =>
      intro out
      simp only [run_bind, length, ByteWriter.push, body (out ++ [0]), lift, measured, checked, patch]
      simp

/-- A trailer computed from everything written before it. -/
theorem Appends.trailed {w : ByteWriter ε Unit} {r : Except ε Bytes} {trailer : Bytes → Bytes}
    (body : Appends w r) :
    Appends (do
        let start ← length
        w
        let written ← since start
        ByteWriter.extend (trailer written))
      (r >>= fun data => .ok (data ++ trailer data)) := by
  cases r with
  | error e =>
    intro out
    obtain ⟨part, left⟩ := body out
    exact ⟨part, by simp [length, left]⟩
  | ok a =>
    intro out
    simp [length, body out, since, ByteWriter.extend]

/-- A field in the head of a message, patched once the length of its body is known. -/
theorem Appends.headed {w : ByteWriter ε Unit} {r : Except ε Bytes} {check : Nat → Except ε Unit}
    {field : Nat → Bytes} (front placeholder back : Bytes)
    (same : ∀ n, (field n).length = placeholder.length) (body : Appends w r) :
    Appends (do
        let start ← length
        ByteWriter.extend front
        ByteWriter.extend placeholder
        ByteWriter.extend back
        let at' ← length
        w
        let stop ← length
        lift (check (stop - at'))
        patch (start + front.length) (field (stop - at')))
      (r >>= fun data => check data.length >>= fun _ =>
        .ok (front ++ (field data.length ++ (back ++ data)))) := by
  cases r with
  | error e =>
    intro out
    obtain ⟨part, left⟩ := body (out ++ front ++ placeholder ++ back)
    exact ⟨front ++ placeholder ++ back ++ part, by simp [length, ByteWriter.extend] at left ⊢; simp [left]⟩
  | ok a =>
    have measured : ∀ out : Bytes, (out ++ front ++ placeholder ++ back ++ a).length -
        (out ++ front ++ placeholder ++ back).length = a.length := by
      intro out
      simp only [List.length_append]
      omega
    show Appends _ (check a.length >>= fun _ => .ok (front ++ (field a.length ++ (back ++ a))))
    cases checked : check a.length with
    | error e =>
      intro out
      refine ⟨front ++ placeholder ++ back ++ a, ?_⟩
      simp only [run_bind, length, ByteWriter.extend, body (out ++ front ++ placeholder ++ back), lift,
        measured, checked]
      simp
    | ok u =>
      intro out
      have kept : ((out ++ front) ++ (placeholder ++ back ++ a)).take (out.length + front.length) =
          out ++ front := List.take_left' List.length_append
      have rest : ((out ++ front ++ placeholder) ++ (back ++ a)).drop
          (out.length + front.length + (field a.length).length) = back ++ a :=
        List.drop_left' (by simp only [List.length_append, same])
      simp only [run_bind, length, ByteWriter.extend, body (out ++ front ++ placeholder ++ back), lift,
        measured, checked, patch, Prod.mk.injEq, true_and]
      simp only [List.append_assoc] at kept rest ⊢
      rw [kept, rest]
      simp

theorem Appends.allocating {w : ByteWriter ε Unit} {r : Except ε Bytes} (h : Appends w r) :
    allocating w = r := by
  cases r with
  | error e =>
    obtain ⟨part, left⟩ := h []
    simp [ByteWriter.allocating, left]
  | ok data => simp [ByteWriter.allocating, h []]

/-- The stronger discipline: the bytes behind what the buffer held, or the error and the
buffer as it was. -/
def AppendsOrLeaves (w : ByteWriter ε Unit) (r : Except ε Bytes) : Prop :=
  ∀ out, w.run out = match r with
    | .ok data => (.ok (), out ++ data)
    | .error e => (.error e, out)

/-- Restoring leaves nothing behind, and changes nothing else. -/
theorem Appends.restored {w : ByteWriter ε Unit} {r : Except ε Bytes} (h : Appends w r) :
    AppendsOrLeaves (ByteWriter.restoring w) r := by
  intro out
  cases r with
  | error e =>
    obtain ⟨part, left⟩ := h out
    simp [ByteWriter.restoring, left]
  | ok data => simp [ByteWriter.restoring, h out]

namespace AppendsOrLeaves

variable {w : ByteWriter ε Unit} {r : Except ε Bytes}

theorem appends (h : AppendsOrLeaves w r) : Appends w r := by
  cases r with
  | error e => exact fun out => ⟨[], by rw [h out, List.append_nil]⟩
  | ok data => exact h

/-- The result is the one on a fresh buffer. -/
theorem self (h : AppendsOrLeaves w r) : AppendsOrLeaves w (ByteWriter.allocating w) := by
  rw [h.appends.allocating]
  exact h

/-- What is computed before the first byte may fail. -/
theorem guard {x : Except ε α} {w : α → ByteWriter ε Unit} {layout : α → Bytes}
    (writes : ∀ a, Appends (w a) (.ok (layout a))) :
    AppendsOrLeaves (do let a ← lift x; w a) (x >>= fun a => .ok (layout a)) := by
  intro out
  cases x with
  | error e => rfl
  | ok a => exact writes a out

theorem trailed {trailer : Bytes → Bytes} (body : AppendsOrLeaves w r) :
    AppendsOrLeaves (do
        let start ← length
        w
        let written ← since start
        ByteWriter.extend (trailer written))
      (r >>= fun data => .ok (data ++ trailer data)) := by
  intro out
  cases r with
  | error e => simp [bind, ByteWriter.bind, Except.bind, length, body out]
  | ok data =>
    exact (Appends.trailed body.appends : Appends _ (.ok (data ++ trailer data))) out

end AppendsOrLeaves

theorem Appends.restoring {w : ByteWriter ε Unit} {r : Except ε Bytes} (h : Appends w r) :
    Appends (ByteWriter.restoring w) r := h.restored.appends

/-- Whatever the buffer holds, the writer's errors are among these. -/
def Fails (P : ε → Prop) (w : ByteWriter ε α) : Prop :=
  ∀ out e after, w.run out = (.error e, after) → P e

namespace Fails

variable {P : ε → Prop}

theorem pure (a : α) : Fails P (pure a : ByteWriter ε α) := by
  intro out e after failed
  cases failed

theorem push (byte : UInt8) : Fails P (push byte : ByteWriter ε Unit) := by
  intro out e after failed
  cases failed

theorem extend (data : Bytes) : Fails P (extend data : ByteWriter ε Unit) := by
  intro out e after failed
  cases failed

theorem length : Fails P (length : ByteWriter ε Nat) := by
  intro out e after failed
  cases failed

theorem since (start : Nat) : Fails P (since start : ByteWriter ε Bytes) := by
  intro out e after failed
  cases failed

theorem patch (start : Nat) (data : Bytes) : Fails P (patch start data : ByteWriter ε Unit) := by
  intro out e after failed
  cases failed

theorem lift {x : Except ε α} (fails : ∀ e, x = .error e → P e) : Fails P (lift x) := by
  intro out e after failed
  exact fails e (Prod.mk.inj failed).1

theorem bind {w : ByteWriter ε α} {f : α → ByteWriter ε β} (first : Fails P w)
    (second : ∀ a, Fails P (f a)) : Fails P (w >>= f) := by
  intro out e after failed
  rw [run_bind] at failed
  rcases ran : w.run out with ⟨e' | a, middle⟩
  · rw [ran] at failed
    cases failed
    exact first out e _ ran
  · rw [ran] at failed
    exact second a middle e after failed

theorem forEach {encode : α → ByteWriter ε Unit} (element : ∀ a, Fails P (encode a)) (as : List α) :
    Fails P (forEach encode as) := by
  induction as with
  | nil => exact .pure ()
  | cons a as ih => exact .bind (element a) fun _ => ih

theorem restoring {w : ByteWriter ε Unit} (body : Fails P w) : Fails P (restoring w) := by
  intro out e after failed
  unfold ByteWriter.restoring at failed
  rcases ran : w.run out with ⟨e' | _, middle⟩
  · simp only [ran] at failed
    cases failed
    exact body out e middle ran
  · simp only [ran] at failed
    cases failed

theorem allocating {w : ByteWriter ε Unit} (body : Fails P w) {e : ε}
    (failed : allocating w = .error e) : P e := by
  unfold ByteWriter.allocating at failed
  rcases ran : w.run [] with ⟨e' | _, after⟩
  · simp only [ran] at failed
    cases failed
    exact body [] e after ran
  · simp only [ran] at failed
    cases failed

end Fails

/-- On any buffer the writer succeeds exactly with the data the predicate admits. -/
def Meets (w : ByteWriter ε Unit) (P : Bytes → Prop) : Prop :=
  ∃ r, Appends w r ∧ ∀ data, r = .ok data ↔ P data

namespace Meets

variable {w v : ByteWriter ε Unit} {P Q : Bytes → Prop}

theorem congr (h : Meets w P) (same : ∀ data, P data ↔ Q data) : Meets w Q := by
  obtain ⟨r, appends, exactly⟩ := h
  exact ⟨r, appends, fun data => (exactly data).trans (same data)⟩

/-- A writer with one admissible result writes it. -/
theorem appends {data : Bytes} (h : Meets w (· = data)) : Appends w (.ok data) := by
  obtain ⟨r, appends, exactly⟩ := h
  obtain rfl := (exactly data).mpr rfl
  exact appends

theorem push (byte : UInt8) : Meets (push byte : ByteWriter ε Unit) (· = [byte]) :=
  ⟨_, .push byte, fun _ => by simp [eq_comm]⟩

theorem extend (part : Bytes) : Meets (extend part : ByteWriter ε Unit) (· = part) :=
  ⟨_, .extend part, fun _ => by simp [eq_comm]⟩

theorem seq (first : Meets w P) (second : Meets v Q) :
    Meets (do w; v) fun data => ∃ a b, P a ∧ Q b ∧ data = a ++ b := by
  obtain ⟨r, left, exactly⟩ := first
  obtain ⟨s, right, exactly'⟩ := second
  exact ⟨_, .seq left right, fun data => by simp only [both_ok, exactly, exactly']⟩

/-- A fixed first byte. -/
theorem push_seq (byte : UInt8) (second : Meets v Q) :
    Meets (do ByteWriter.push byte; v) fun data => ∃ b, Q b ∧ data = byte :: b :=
  (seq (push byte) second).congr fun data => by simp

theorem extend_seq (part : Bytes) (second : Meets v Q) :
    Meets (do ByteWriter.extend part; v) fun data => ∃ b, Q b ∧ data = part ++ b :=
  (seq (extend part) second).congr fun data => by simp

theorem guard {x : Except ε α} {w : α → ByteWriter ε Unit} {P : α → Bytes → Prop}
    (checked : ∀ a, x = .ok a → Meets (w a) (P a)) :
    Meets (do let a ← lift x; w a) fun data => ∃ a, x = .ok a ∧ P a data := by
  cases x with
  | error e => exact ⟨.error e, fun out => ⟨[], by simp [lift]⟩, by simp⟩
  | ok a => exact (checked a rfl).congr fun data => by simp

/-- A check with nothing to pass on. -/
theorem check {x : Except ε Unit} (h : Meets w P) :
    Meets (do lift x; w) fun data => x = .ok () ∧ P data :=
  (guard fun _ _ => h).congr fun _ =>
    ⟨fun ⟨_, passed, fits⟩ => ⟨passed, fits⟩, fun ⟨passed, fits⟩ => ⟨(), passed, fits⟩⟩

theorem measured (check : Nat → Except ε Unit) (body : Meets w P) :
    Meets (do
        let start ← length
        w
        let stop ← length
        lift (check (stop - start)))
      fun data => P data ∧ check data.length = .ok () := by
  obtain ⟨r, appends, exactly⟩ := body
  refine ⟨_, .measured appends, fun data => ?_⟩
  simp only [← exactly]
  cases r with
  | error e => simp [bind, Except.bind]
  | ok a =>
    cases checked : check a.length <;> simp [bind, Except.bind, checked]
    · rintro rfl
      simp [checked]
    · rintro rfl
      exact checked

theorem counted (check : Nat → Except ε Unit) (head : Nat → UInt8) (body : Meets w P) :
    Meets (do
        let start ← length
        ByteWriter.push 0
        w
        let stop ← length
        lift (check (stop - start - 1))
        patch start [head (stop - start - 1)])
      fun data => ∃ b, P b ∧ check b.length = .ok () ∧ data = head b.length :: b := by
  obtain ⟨r, appends, exactly⟩ := body
  refine ⟨_, .counted appends, fun data => ?_⟩
  simp only [← exactly]
  cases r with
  | error e => simp [bind, Except.bind]
  | ok a => cases checked : check a.length <;> simp [bind, Except.bind, checked, eq_comm]

theorem trailed (trailer : Bytes → Bytes) (body : Meets w P) :
    Meets (do
        let start ← length
        w
        let written ← since start
        ByteWriter.extend (trailer written))
      fun data => ∃ b, P b ∧ data = b ++ trailer b := by
  obtain ⟨r, appends, exactly⟩ := body
  refine ⟨_, .trailed appends, fun data => ?_⟩
  simp only [← exactly]
  cases r <;> simp [bind, Except.bind, eq_comm]

theorem headed (check : Nat → Except ε Unit) (field : Nat → Bytes) (front placeholder back : Bytes)
    (same : ∀ n, (field n).length = placeholder.length) (body : Meets w P) :
    Meets (do
        let start ← length
        ByteWriter.extend front
        ByteWriter.extend placeholder
        ByteWriter.extend back
        let at' ← length
        w
        let stop ← length
        lift (check (stop - at'))
        patch (start + front.length) (field (stop - at')))
      fun data => ∃ b, P b ∧ check b.length = .ok () ∧
        data = front ++ (field b.length ++ (back ++ b)) := by
  obtain ⟨r, appends, exactly⟩ := body
  refine ⟨_, .headed front placeholder back same appends, fun data => ?_⟩
  simp only [← exactly]
  cases r with
  | error e => simp [bind, Except.bind]
  | ok a => cases checked : check a.length <;> simp [bind, Except.bind, checked, eq_comm]

theorem forEach {encode : α → ByteWriter ε Unit} (layout : α → Bytes) (valid : α → Prop)
    (element : ∀ a, Meets (encode a) fun data => data = layout a ∧ valid a) (as : List α) :
    Meets (ByteWriter.forEach encode as) fun data => data = as.flatMap layout ∧ ∀ a ∈ as, valid a := by
  choose f appends exactly using element
  exact ⟨_, .forEach appends as, each_ok exactly as⟩

theorem restoring (h : Meets w P) : Meets (ByteWriter.restoring w) P := by
  obtain ⟨r, appends, exactly⟩ := h
  exact ⟨r, appends.restoring, exactly⟩

theorem allocating (h : Meets w P) (data : Bytes) : ByteWriter.allocating w = .ok data ↔ P data := by
  obtain ⟨r, appends, exactly⟩ := h
  rw [appends.allocating, exactly]

end Meets

end ByteWriter

end Bytes
