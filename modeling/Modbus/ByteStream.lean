import Modbus.ByteWords

/-! Loops over byte streams. A loop that reads until it can stop waits for its bytes, or
loses against its own timer or against the moment the whole loop is abandoned. A loop
that writes a buffer is polled until it is done, or dropped where it stood. -/

/-- When timers go off: never before the moment they are set for. -/
structure Timer where
  fires : Nat → Nat
  patient : ∀ moment, moment ≤ fires moment

namespace Timer

def exact : Timer := ⟨id, Nat.le_refl⟩

def ticking (tick : Nat) (positive : 0 < tick) : Timer where
  fires moment := (moment + tick - 1) / tick * tick
  patient moment := by
    have rest := Nat.mod_lt (moment + tick - 1) positive
    have whole := Nat.div_add_mod' (moment + tick - 1) tick
    omega

theorem ticking_fires_le (tick : Nat) (positive : 0 < tick) (moment : Nat) :
    (ticking tick positive).fires moment ≤ moment + (tick - 1) := by
  have whole := Nat.div_mul_le_self (moment + tick - 1) tick
  simp only [ticking]
  omega

def expiry (timer : Timer) (now : Nat) (wait : Option Nat) : Option Nat :=
  wait.map fun wait => timer.fires (now + wait)

@[simp] theorem expiry_none (timer : Timer) (now : Nat) : timer.expiry now none = none := rfl

@[simp] theorem expiry_some (timer : Timer) (now wait : Nat) :
    timer.expiry now (some wait) = some (timer.fires (now + wait)) := rfl

end Timer

/-- A clock and the timers that go by it. -/
structure Clock where
  now : Nat
  timer : Timer

/-- When a read is ready and what it returns: bytes, none at the end, or a failure. -/
structure Arrival (capacity : Nat) (ε : Type) where
  time : Nat
  read : Except ε {bytes : Bytes // bytes.length ≤ capacity}

/-- Reads still to come; from `ending` on every further read returns no bytes. -/
structure ByteStream (capacity : Nat) (ε : Type) where
  now : Nat
  arrivals : List (Arrival capacity ε)
  ending : Option Nat
  timer : Timer

namespace ByteStream

/-- A pending read: how long to wait, and what each outcome leads to. -/
structure Await (ε σ ρ : Type) where
  timer : Option Nat
  data : Bytes → σ
  elapsed : ρ × σ
  ended : ρ × σ
  failed : ε → ρ × σ

inductive Turn (ε σ ρ : Type) where
  | stop (result : ρ) (state : σ)
  | await (state : σ) (pending : Await ε σ ρ)

inductive Winner where
  | read | timer | limit
  deriving DecidableEq, Repr

def Within (time : Nat) : Option Nat → Prop
  | none => True
  | some bound => time ≤ bound

instance (time : Nat) (bound : Option Nat) : Decidable (Within time bound) := by
  cases bound <;> unfold Within <;> infer_instance

/-- Which of a read, a timer and the abandonment comes first, and when. A read wins a
tie; the clock stays where nothing ever happens. -/
def race (timer : Timer) (now : Nat) (ready wait limit : Option Nat) : Winner × Nat :=
  let expiry := timer.expiry now wait
  let unread : Winner × Nat :=
    match expiry with
    | some expiry => if Within expiry limit then (.timer, expiry) else (.limit, max now (limit.getD now))
    | none => (.limit, max now (limit.getD now))
  match ready with
  | some time =>
    if Within (max now time) expiry ∧ Within (max now time) limit then (.read, max now time) else unread
  | none => unread

variable {capacity : Nat} {ε σ ρ : Type}

/-- One turn after another until the loop stops or is abandoned at `limit`. -/
def driveFrom (turn : σ → Turn ε σ ρ) (limit ending : Option Nat) (timer : Timer) :
    List (Arrival capacity ε) → Nat → σ → Option ρ × σ × ByteStream capacity ε
  | arrivals, now, state =>
    match turn state with
    | .stop result state => (some result, state, ⟨now, arrivals, ending, timer⟩)
    | .await state pending =>
      match arrivals with
      | [] =>
        match race timer now ending pending.timer limit with
        | (.read, time) => (some pending.ended.1, pending.ended.2, ⟨time, [], ending, timer⟩)
        | (.timer, time) => (some pending.elapsed.1, pending.elapsed.2, ⟨time, [], ending, timer⟩)
        | (.limit, time) => (none, state, ⟨time, [], ending, timer⟩)
      | arrival :: rest =>
        match race timer now (some arrival.time) pending.timer limit with
        | (.read, time) =>
          match arrival.read with
          | .error failure =>
            (some (pending.failed failure).1, (pending.failed failure).2, ⟨time, rest, ending, timer⟩)
          | .ok bytes =>
            if bytes.val = [] then (some pending.ended.1, pending.ended.2, ⟨time, rest, ending, timer⟩)
            else driveFrom turn limit ending timer rest time (pending.data bytes.val)
        | (.timer, time) =>
          (some pending.elapsed.1, pending.elapsed.2, ⟨time, arrival :: rest, ending, timer⟩)
        | (.limit, time) => (none, state, ⟨time, arrival :: rest, ending, timer⟩)

def drive (turn : σ → Turn ε σ ρ) (limit : Option Nat) (state : σ)
    (stream : ByteStream capacity ε) : Option ρ × σ × ByteStream capacity ε :=
  driveFrom turn limit stream.ending stream.timer stream.arrivals stream.now state

def ready (stream : ByteStream capacity ε) : Option Nat :=
  match stream.arrivals with
  | [] => stream.ending
  | arrival :: _ => some arrival.time

/-- Everything one turn can do: the loop is done, or it has read and takes another turn. -/
inductive Progress (capacity : Nat) (ε σ ρ : Type) where
  | finished (result : Option ρ) (state : σ) (stream : ByteStream capacity ε)
  | reading (state : σ) (stream : ByteStream capacity ε)

variable (turn : σ → Turn ε σ ρ) (limit : Option Nat) (state : σ) (stream : ByteStream capacity ε)

inductive Advances : Progress capacity ε σ ρ → Prop
  | stop {result : ρ} {next : σ} : turn state = .stop result next →
      Advances (.finished (some result) next stream)
  | data {next : σ} {pending : Await ε σ ρ} {time : Nat}
      {chunk : {bytes : Bytes // bytes.length ≤ capacity}} {rest : List (Arrival capacity ε)} :
      turn state = .await next pending → stream.arrivals = ⟨time, .ok chunk⟩ :: rest → chunk.val ≠ [] →
      Within (max stream.now time) (stream.timer.expiry stream.now pending.timer) →
      Within (max stream.now time) limit →
      Advances (.reading (pending.data chunk.val) ⟨max stream.now time, rest, stream.ending, stream.timer⟩)
  | ended {next : σ} {pending : Await ε σ ρ} {time : Nat} {rest : List (Arrival capacity ε)} :
      turn state = .await next pending →
      ((∃ chunk, chunk.val = [] ∧ stream.arrivals = ⟨time, .ok chunk⟩ :: rest) ∨
        stream.arrivals = [] ∧ rest = [] ∧ stream.ending = some time) →
      Within (max stream.now time) (stream.timer.expiry stream.now pending.timer) →
      Advances (.finished (some pending.ended.1) pending.ended.2 ⟨max stream.now time, rest, stream.ending, stream.timer⟩)
  | failed {next : σ} {pending : Await ε σ ρ} {time : Nat} {failure : ε}
      {rest : List (Arrival capacity ε)} :
      turn state = .await next pending → stream.arrivals = ⟨time, .error failure⟩ :: rest →
      Within (max stream.now time) (stream.timer.expiry stream.now pending.timer) →
      Advances (.finished (some (pending.failed failure).1) (pending.failed failure).2
        ⟨max stream.now time, rest, stream.ending, stream.timer⟩)
  | elapsed {next : σ} {pending : Await ε σ ρ} {wait : Nat} :
      turn state = .await next pending → pending.timer = some wait →
      Within (stream.timer.fires (stream.now + wait)) limit →
      (∀ time, stream.ready = some time → stream.timer.fires (stream.now + wait) < max stream.now time) →
      Advances (.finished (some pending.elapsed.1) pending.elapsed.2
        ⟨stream.timer.fires (stream.now + wait), stream.arrivals, stream.ending, stream.timer⟩)
  | abandoned {next : σ} {pending : Await ε σ ρ} {now : Nat} :
      turn state = .await next pending →
      (limit = none → pending.timer = none ∧ stream.ready = none) →
      Advances (.finished none next ⟨now, stream.arrivals, stream.ending, stream.timer⟩)

section Race

variable {timer : Timer} {now : Nat} {ready wait limit : Option Nat}

theorem race_late (late : ∀ time, ready = some time → ¬(Within (max now time) (timer.expiry now wait) ∧
      Within (max now time) limit)) :
    race timer now ready wait limit = race timer now none wait limit := by
  cases ready with
  | none => rfl
  | some time => simp only [race, late time rfl, if_false]

theorem race_cases (timer : Timer) (now : Nat) (ready wait limit : Option Nat) :
    (∃ time, ready = some time ∧ race timer now ready wait limit = (.read, max now time) ∧
      Within (max now time) (timer.expiry now wait) ∧ Within (max now time) limit) ∨
    (∃ span, wait = some span ∧
      race timer now ready wait limit = (.timer, timer.fires (now + span)) ∧
      Within (timer.fires (now + span)) limit ∧
      ∀ time, ready = some time → timer.fires (now + span) < max now time) ∨
    ∃ stopped, race timer now ready wait limit = (.limit, stopped) ∧
      (limit = none → wait = none ∧ ready = none) := by
  by_cases first : ∃ time, ready = some time ∧ Within (max now time) (timer.expiry now wait) ∧
      Within (max now time) limit
  · obtain ⟨time, rfl, inTime, allowed⟩ := first
    exact .inl ⟨time, rfl, by simp [race, inTime, allowed], inTime, allowed⟩
  have late : ∀ time, ready = some time → ¬(Within (max now time) (timer.expiry now wait) ∧
      Within (max now time) limit) := fun time same both => first ⟨time, same, both⟩
  rw [race_late late]
  right
  cases wait with
  | none =>
    refine .inr ⟨_, rfl, ?_⟩
    intro unlimited
    refine ⟨rfl, ?_⟩
    cases ready with
    | none => rfl
    | some time => exact absurd ⟨trivial, unlimited ▸ trivial⟩ (late time rfl)
  | some span =>
    by_cases allowed : Within (timer.fires (now + span)) limit
    · refine .inl ⟨span, rfl, by simp [race, Timer.expiry, allowed], allowed, ?_⟩
      intro time same
      apply Nat.lt_of_not_le
      intro inTime
      apply late time same
      refine ⟨inTime, ?_⟩
      cases limit with
      | none => trivial
      | some bound => exact Nat.le_trans inTime allowed
    · refine .inr ⟨_, by simp only [race, Timer.expiry, Option.map_some, allowed, if_false]; rfl, ?_⟩
      rintro rfl
      exact absurd trivial allowed

theorem race_unlimited (unspent : (race timer now ready wait limit).1 ≠ .limit) :
    race timer now ready wait none = race timer now ready wait limit := by
  rcases race_cases timer now ready wait limit with
    ⟨time, rfl, wins, inTime, _⟩ | ⟨span, rfl, wins, _, early⟩ | ⟨stopped, wins, _⟩
  · rw [wins]
    simp only [race]
    exact if_pos ⟨inTime, trivial⟩
  · have late : ∀ time, ready = some time →
        ¬(Within (max now time) (timer.expiry now (some span)) ∧ Within (max now time) none) := by
      intro time same ⟨inTime, _⟩
      exact Nat.not_le_of_lt (early time same) inTime
    rw [wins, race_late late]
    simp [race, Timer.expiry, Within]
  · exact absurd (congrArg Prod.fst wins) unspent

theorem race_timely {bound time : Nat} {winner : Winner}
    (raced : race timer now ready wait (some bound) = (winner, time)) :
    now ≤ time ∧ time ≤ max now bound ∧ (winner = .limit → time = max now bound) := by
  rcases race_cases timer now ready wait (some bound) with
    ⟨_, _, wins, _, allowed⟩ | ⟨span, _, wins, allowed, _⟩ | ⟨_, wins, _⟩
  all_goals
    cases wins.symm.trans raced
  · exact ⟨Nat.le_max_left _ _, Nat.le_trans allowed (Nat.le_max_right _ _), by rintro ⟨⟩⟩
  · have later := timer.patient (now + span)
    exact ⟨by omega, Nat.le_trans allowed (Nat.le_max_right _ _), by rintro ⟨⟩⟩
  · have last : time = max now bound := by
      unfold race at wins
      grind
    exact ⟨last ▸ Nat.le_max_left _ _, Nat.le_of_eq last, fun _ => last⟩

end Race

theorem drive_advances :
    ∃ progress, Advances turn limit state stream progress ∧
      drive turn limit state stream =
        match progress with
        | .finished result next after => (result, next, after)
        | .reading next after => drive turn limit next after := by
  obtain ⟨now, arrivals, ending, timer⟩ := stream
  cases turned : turn state with
  | stop result next =>
    refine ⟨_, .stop turned, ?_⟩
    simp only [drive]
    unfold driveFrom
    simp only [turned]
  | await next pending =>
    simp only [drive]
    cases arrivals with
    | nil =>
      unfold driveFrom
      rcases race_cases timer now ending pending.timer limit with
        ⟨time, same, wins, inTime, allowed⟩ | ⟨wait, timed, wins, allowed, early⟩ | ⟨stopped, wins, never⟩
      · exact ⟨_, .ended turned (.inr ⟨rfl, rfl, same⟩) inTime, by simp only [turned, wins]⟩
      · exact ⟨_, .elapsed turned timed allowed early, by simp only [turned, wins]⟩
      · refine ⟨.finished none next ⟨stopped, [], ending, timer⟩, .abandoned turned never, ?_⟩
        simp only [turned, wins]
    | cons arrival rest =>
      obtain ⟨time, read⟩ := arrival
      rcases race_cases timer now (some time) pending.timer limit with
        ⟨_, same, wins, inTime, allowed⟩ | ⟨wait, timed, wins, allowed, early⟩ | ⟨stopped, wins, never⟩
      · obtain rfl := Option.some.inj same
        cases read with
        | error failure =>
          refine ⟨_, .failed turned rfl inTime, ?_⟩
          unfold driveFrom
          simp only [turned, wins]
        | ok chunk =>
          by_cases empty : chunk.val = []
          · refine ⟨_, .ended turned (.inl ⟨chunk, empty, rfl⟩) inTime, ?_⟩
            unfold driveFrom
            simp only [turned, wins, empty, if_true]
          · refine ⟨_, .data turned rfl empty inTime allowed, ?_⟩
            rw [driveFrom]
            simp only [turned, wins, empty, if_false]
      · refine ⟨_, .elapsed turned timed allowed early, ?_⟩
        unfold driveFrom
        simp only [turned, wins]
      · refine ⟨.finished none next ⟨stopped, ⟨time, read⟩ :: rest, ending, timer⟩, .abandoned turned never, ?_⟩
        unfold driveFrom
        simp only [turned, wins]

theorem drive_unlimited {turn : σ → Turn ε σ ρ} {limit : Option Nat} {state next : σ}
    {stream after : ByteStream capacity ε} {result : ρ}
    (drove : drive turn limit state stream = (some result, next, after)) :
    drive turn none state stream = (some result, next, after) := by
  obtain ⟨now, arrivals, ending, timer⟩ := stream
  simp only [drive] at drove ⊢
  induction arrivals generalizing now state with
  | nil =>
    unfold driveFrom at drove ⊢
    cases turned : turn state with
    | stop => simpa only [turned] using drove
    | await waiting pending =>
      simp only [turned] at drove ⊢
      have unspent : (race timer now ending pending.timer limit).1 ≠ .limit := by
        intro spent
        rcases won : race timer now ending pending.timer limit with ⟨winner, time⟩
        rw [won] at drove spent
        obtain rfl : winner = .limit := spent
        cases drove
      rwa [race_unlimited unspent]
  | cons arrival rest ih =>
    unfold driveFrom at drove ⊢
    cases turned : turn state with
    | stop => simpa only [turned] using drove
    | await waiting pending =>
      simp only [turned] at drove ⊢
      rcases won : race timer now (some arrival.time) pending.timer limit with ⟨_ | _ | _, time⟩
      · have unspent : (race timer now (some arrival.time) pending.timer limit).1 ≠ .limit := by simp [won]
        rw [race_unlimited unspent, won]
        simp only [won] at drove ⊢
        cases read : arrival.read with
        | error failure => simpa only [read] using drove
        | ok bytes =>
          simp only [read] at drove ⊢
          split
          · next empty => rwa [if_pos empty] at drove
          · next some_bytes =>
            rw [if_neg some_bytes] at drove
            exact ih _ drove
      · have unspent : (race timer now (some arrival.time) pending.timer limit).1 ≠ .limit := by simp [won]
        rw [race_unlimited unspent, won]
        simpa only [won] using drove
      · simp only [won] at drove
        cases drove

/-- A clock has run from `before` to `after`, and was stopped at `bound` if there is no result. -/
structure Timely (before : Clock) (bound : Nat) (result : Option ρ) (after : Clock) : Prop where
  timer : after.timer = before.timer
  onward : before.now ≤ after.now
  inTime : after.now ≤ max before.now bound
  abandoned : result = none → after.now = max before.now bound

theorem Timely.still (clock : Clock) (bound : Nat) (result : ρ) : Timely clock bound (some result) clock :=
  ⟨rfl, Nat.le_refl _, Nat.le_max_left _ _, by rintro ⟨⟩⟩

theorem Timely.trans {before middle after : Clock} {bound : Nat} {first : ρ} {result : Option σ}
    (begins : Timely before bound (some first) middle) (goes : Timely middle bound result after) :
    Timely before bound result after := by
  obtain ⟨timer, onward, inTime, _⟩ := begins
  have same : max middle.now bound = max before.now bound := by omega
  constructor
  · exact goes.timer.trans timer
  · exact Nat.le_trans onward goes.onward
  · exact same ▸ goes.inTime
  · intro nothing
    rw [goes.abandoned nothing, same]

theorem Timely.of_iff {before after : Clock} {bound : Nat} {first : Option ρ} {result : Option σ}
    (timely : Timely before bound first after) (same : result = none → first = none) :
    Timely before bound result after :=
  ⟨timely.timer, timely.onward, timely.inTime, fun nothing => timely.abandoned (same nothing)⟩

def clockOf (stream : ByteStream capacity ε) : Clock := ⟨stream.now, stream.timer⟩

theorem drive_timely {turn : σ → Turn ε σ ρ} {bound : Nat} {state next : σ}
    {stream after : ByteStream capacity ε} {result : Option ρ}
    (drove : drive turn (some bound) state stream = (result, next, after)) :
    Timely stream.clockOf bound result after.clockOf := by
  obtain ⟨now, arrivals, ending, timer⟩ := stream
  simp only [drive] at drove ⊢
  induction arrivals generalizing now state with
  | nil =>
    unfold driveFrom at drove
    cases turned : turn state with
    | stop =>
      simp only [turned] at drove
      cases drove
      exact .still _ _ _
    | await waiting pending =>
      rcases raced : race timer now ending pending.timer (some bound) with ⟨_ | _ | _, time⟩
      all_goals
        obtain ⟨onward, inTime, last⟩ := race_timely raced
        simp only [turned, raced] at drove
        cases drove
      · exact ⟨rfl, onward, inTime, by rintro ⟨⟩⟩
      · exact ⟨rfl, onward, inTime, by rintro ⟨⟩⟩
      · exact ⟨rfl, onward, inTime, fun _ => last rfl⟩
  | cons arrival rest ih =>
    unfold driveFrom at drove
    cases turned : turn state with
    | stop =>
      simp only [turned] at drove
      cases drove
      exact .still _ _ _
    | await waiting pending =>
      rcases raced : race timer now (some arrival.time) pending.timer (some bound) with ⟨_ | _ | _, time⟩
      all_goals
        obtain ⟨onward, inTime, last⟩ := race_timely raced
        simp only [turned, raced] at drove
      · have here : Timely ⟨now, timer⟩ bound (some ()) ⟨time, timer⟩ := ⟨rfl, onward, inTime, by rintro ⟨⟩⟩
        cases read : arrival.read with
        | error failure =>
          simp only [read] at drove
          cases drove
          exact here.of_iff (by rintro ⟨⟩)
        | ok chunk =>
          simp only [read] at drove
          split at drove
          · cases drove
            exact here.of_iff (by rintro ⟨⟩)
          · exact here.trans (ih _ drove)
      · cases drove
        exact ⟨rfl, onward, inTime, by rintro ⟨⟩⟩
      · cases drove
        exact ⟨rfl, onward, inTime, fun _ => last rfl⟩

variable {state stream}

/-- What each step keeps up to the end holds of the whole run. -/
theorem drive_rule (Holds : σ → ByteStream capacity ε → Prop)
    (Ends : Option ρ → σ → ByteStream capacity ε → Prop)
    (finishes : ∀ state stream result next after, Holds state stream →
      Advances turn limit state stream (.finished result next after) → Ends result next after)
    (continues : ∀ state stream next after, Holds state stream →
      Advances turn limit state stream (.reading next after) → Holds next after)
    (holds : Holds state stream) :
    ∃ result next after, drive turn limit state stream = (result, next, after) ∧
      Ends result next after := by
  obtain ⟨now, arrivals, ending, timer⟩ := stream
  induction arrivals generalizing now state with
  | nil =>
    obtain ⟨progress, steps, drives⟩ := drive_advances turn limit state ⟨now, [], ending, timer⟩
    cases progress with
    | finished result next after =>
      exact ⟨result, next, after, drives, finishes _ _ _ _ _ holds steps⟩
    | reading next after => cases steps with | data _ arrived => cases arrived
  | cons arrival rest ih =>
    obtain ⟨progress, steps, drives⟩ := drive_advances turn limit state ⟨now, arrival :: rest, ending, timer⟩
    cases progress with
    | finished result next after =>
      exact ⟨result, next, after, drives, finishes _ _ _ _ _ holds steps⟩
    | reading next after =>
      have still := continues _ _ _ _ holds steps
      simp only at drives
      rw [drives]
      cases steps with
      | data _ arrived =>
        obtain ⟨_, rfl⟩ := List.cons.inj arrived
        exact ih _ still

theorem drove_rule (Holds : σ → ByteStream capacity ε → Prop)
    (Ends : Option ρ → σ → ByteStream capacity ε → Prop)
    (finishes : ∀ state stream result next after, Holds state stream →
      Advances turn limit state stream (.finished result next after) → Ends result next after)
    (continues : ∀ state stream next after, Holds state stream →
      Advances turn limit state stream (.reading next after) → Holds next after)
    (holds : Holds state stream) {result : Option ρ} {next : σ} {after : ByteStream capacity ε}
    (drove : drive turn limit state stream = (result, next, after)) : Ends result next after := by
  obtain ⟨_, _, _, again, ends⟩ := drive_rule turn limit Holds Ends finishes continues holds
  cases drove.symm.trans again
  exact ends

def bytesIn : List (Arrival capacity ε) → Nat
  | [] => 0
  | ⟨_, .ok chunk⟩ :: rest => chunk.val.length + bytesIn rest
  | ⟨_, .error _⟩ :: rest => bytesIn rest

/-- A wait that ends with no more than `held` and what is read meanwhile. -/
structure Await.Conserves (pending : Await ε σ ρ) (size : σ → Nat) (weight : ρ → Nat) (held : Nat) :
    Prop where
  data : ∀ bytes, size (pending.data bytes) ≤ held + bytes.length
  elapsed : size pending.elapsed.2 + weight pending.elapsed.1 ≤ held
  ended : size pending.ended.2 + weight pending.ended.1 ≤ held
  failed : ∀ failure, size (pending.failed failure).2 + weight (pending.failed failure).1 ≤ held

/-- A loop whose state and result together never hold more than was read. -/
structure Conserves (turn : σ → Turn ε σ ρ) (size : σ → Nat) (weight : ρ → Nat) : Prop where
  stop : ∀ {state result next}, turn state = .stop result next →
    size next + weight result ≤ size state
  await : ∀ {state next pending}, turn state = .await next pending →
    size next ≤ size state ∧ pending.Conserves size weight (size state)

theorem drive_conserves {size : σ → Nat} {weight : ρ → Nat} (conserves : Conserves turn size weight)
    {result : Option ρ} {next : σ} {after : ByteStream capacity ε}
    (drove : drive turn limit state stream = (result, next, after)) :
    size next + bytesIn after.arrivals + (result.map weight).getD 0 ≤
      size state + bytesIn stream.arrivals := by
  refine drove_rule turn limit
    (fun now current => size now + bytesIn current.arrivals ≤ size state + bytesIn stream.arrivals)
    (fun result next after => size next + bytesIn after.arrivals + (result.map weight).getD 0 ≤
      size state + bytesIn stream.arrivals) ?_ ?_ (Nat.le_refl _) drove
  · intro now current result next after bounded steps
    cases steps with
    | stop stops =>
      have kept := conserves.stop stops
      simp only [Option.map_some, Option.getD_some]
      omega
    | ended waits closed =>
      have kept := (conserves.await waits).2.ended
      simp only [Option.map_some, Option.getD_some]
      rcases closed with ⟨chunk, _, arrived⟩ | ⟨arrived, rfl, _⟩
      · rw [arrived, bytesIn] at bounded
        omega
      · rw [arrived] at bounded
        omega
    | @failed _ _ _ failure _ waits arrived =>
      have kept := (conserves.await waits).2.failed failure
      simp only [Option.map_some, Option.getD_some]
      rw [arrived, bytesIn] at bounded
      omega
    | elapsed waits =>
      have kept := (conserves.await waits).2.elapsed
      simp only [Option.map_some, Option.getD_some]
      omega
    | abandoned waits =>
      have kept := (conserves.await waits).1
      simp only [Option.map_none, Option.getD_none]
      omega
  · intro now current next after bounded steps
    cases steps with
    | @data _ _ _ chunk _ waits arrived =>
      have kept := (conserves.await waits).2.data chunk.val
      rw [arrived, bytesIn] at bounded
      simp only
      omega

def delivered : List (Arrival capacity ε) → Bytes
  | [] => []
  | ⟨_, .ok chunk⟩ :: rest => chunk.val ++ delivered rest
  | ⟨_, .error _⟩ :: rest => delivered rest

theorem delivered_append (first second : List (Arrival capacity ε)) :
    delivered (first ++ second) = delivered first ++ delivered second := by
  induction first with
  | nil => rfl
  | cons arrival rest ih =>
    obtain ⟨time, failure | chunk⟩ := arrival
    · exact ih
    · simp only [List.cons_append, delivered, ih, List.append_assoc]

/-- A wait that ends with exactly `before` and what is read meanwhile. -/
structure Await.Lossless (pending : Await ε σ ρ) (held : σ → Bytes) (taken : ρ → Bytes)
    (before : Bytes) : Prop where
  data : ∀ bytes, held (pending.data bytes) = before ++ bytes
  elapsed : before = taken pending.elapsed.1 ++ held pending.elapsed.2
  ended : before = taken pending.ended.1 ++ held pending.ended.2
  failed : ∀ failure, before = taken (pending.failed failure).1 ++ held (pending.failed failure).2

/-- A loop that neither drops a byte nor makes one up. -/
structure Lossless (turn : σ → Turn ε σ ρ) (held : σ → Bytes) (taken : ρ → Bytes) : Prop where
  stop : ∀ {state result next}, turn state = .stop result next → held state = taken result ++ held next
  await : ∀ {state next pending}, turn state = .await next pending →
    held next = held state ∧ pending.Lossless held taken (held state)

/-- What a lossless loop held and read is what its result has taken and its state holds. -/
theorem drive_lossless {held : σ → Bytes} {taken : ρ → Bytes} (lossless : Lossless turn held taken)
    {result : Option ρ} {next : σ} {after : ByteStream capacity ε}
    (drove : drive turn limit state stream = (result, next, after)) :
    ∃ consumed, stream.arrivals = consumed ++ after.arrivals ∧
      held state ++ delivered consumed = (result.map taken).getD [] ++ held next := by
  refine drove_rule turn limit
    (fun now current => ∃ consumed, stream.arrivals = consumed ++ current.arrivals ∧
      held state ++ delivered consumed = held now)
    (fun result next after => ∃ consumed, stream.arrivals = consumed ++ after.arrivals ∧
      held state ++ delivered consumed = (result.map taken).getD [] ++ held next)
    ?_ ?_ ⟨[], rfl, List.append_nil _⟩ drove
  · intro now current result next after sofar steps
    obtain ⟨consumed, arrivals, bytes⟩ := sofar
    cases steps with
    | stop stops => exact ⟨consumed, arrivals, bytes.trans (lossless.stop stops)⟩
    | @ended _ _ time _ waits closed =>
      have kept := bytes.trans (lossless.await waits).2.ended
      rcases closed with ⟨chunk, empty, arrived⟩ | ⟨arrived, rfl, _⟩
      · refine ⟨consumed ++ [⟨time, .ok chunk⟩], by simp [arrivals, arrived], ?_⟩
        simpa [delivered_append, delivered, empty] using kept
      · exact ⟨consumed, by rw [arrivals, arrived], kept⟩
    | @failed _ _ time failure _ waits arrived =>
      refine ⟨consumed ++ [⟨time, .error failure⟩], by simp [arrivals, arrived], ?_⟩
      simpa [delivered_append, delivered] using bytes.trans ((lossless.await waits).2.failed failure)
    | elapsed waits => exact ⟨consumed, arrivals, bytes.trans (lossless.await waits).2.elapsed⟩
    | abandoned waits => exact ⟨consumed, arrivals, bytes.trans (lossless.await waits).1.symm⟩
  · intro now current next after sofar steps
    obtain ⟨consumed, arrivals, bytes⟩ := sofar
    cases steps with
    | @data _ _ time chunk _ waits arrived =>
      refine ⟨consumed ++ [⟨time, .ok chunk⟩], by simp [arrivals, arrived], ?_⟩
      rw [(lossless.await waits).2.data, ← bytes]
      simp [delivered_append, delivered]

def Await.Yields (pending : Await ε σ ρ) (result : ρ) (next : σ) : Prop :=
  (result, next) = pending.elapsed ∨ (result, next) = pending.ended ∨
    ∃ failure, (result, next) = pending.failed failure

def Concludes (turn : σ → Turn ε σ ρ) (last : σ) (result : ρ) (next : σ) : Prop :=
  turn last = .stop result next ∨
    ∃ waiting pending, turn last = .await waiting pending ∧ pending.Yields result next

theorem drive_ending (Holds : σ → Prop)
    (keeps : ∀ {state next pending}, Holds state → turn state = .await next pending →
      ∀ bytes, Holds (pending.data bytes))
    (holds : Holds state) {result : ρ} {next : σ} {after : ByteStream capacity ε}
    (drove : drive turn limit state stream = (some result, next, after)) :
    ∃ last, Holds last ∧ Concludes turn last result next := by
  refine drove_rule turn limit (fun now _ => Holds now)
    (fun result next _ => ∀ outcome, result = some outcome → ∃ last, Holds last ∧ Concludes turn last outcome next)
    ?_ ?_ holds drove result rfl
  · rintro now current _ next after held steps outcome rfl
    cases steps with
    | stop stops => exact ⟨now, held, .inl stops⟩
    | elapsed waits => exact ⟨now, held, .inr ⟨_, _, waits, .inl rfl⟩⟩
    | ended waits => exact ⟨now, held, .inr ⟨_, _, waits, .inr (.inl rfl)⟩⟩
    | failed waits => exact ⟨now, held, .inr ⟨_, _, waits, .inr (.inr ⟨_, rfl⟩)⟩⟩
  · intro now current next after held steps
    cases steps with
    | data waits => exact keeps held waits _

/-- Only reads that return bytes, adding up to the given ones. -/
inductive Carries : List (Arrival capacity ε) → Bytes → Prop
  | nil : Carries [] []
  | cons {time : Nat} {chunk : {bytes : Bytes // bytes.length ≤ capacity}}
      {rest : List (Arrival capacity ε)} {bytes : Bytes} :
      chunk.val ≠ [] → Carries rest bytes → Carries (⟨time, .ok chunk⟩ :: rest) (chunk.val ++ bytes)

theorem Carries.eq_nil {arrivals : List (Arrival capacity ε)} (carries : Carries arrivals []) :
    arrivals = [] := by
  generalize nothing : ([] : Bytes) = bytes at carries
  cases carries with
  | nil => rfl
  | cons nonempty => exact absurd (List.nil_eq_append_iff.mp nothing).1 nonempty

theorem Carries.append {first second : List (Arrival capacity ε)} {bytes more : Bytes}
    (carries : Carries first bytes) (then_carries : Carries second more) :
    Carries (first ++ second) (bytes ++ more) := by
  induction carries with
  | nil => exact then_carries
  | cons nonempty _ ih =>
    rw [List.append_assoc]
    exact .cons nonempty ih

theorem Carries.bytesIn {arrivals : List (Arrival capacity ε)} {bytes : Bytes}
    (carries : Carries arrivals bytes) : bytesIn arrivals = bytes.length := by
  induction carries with
  | nil => rfl
  | cons _ _ ih => rw [ByteStream.bytesIn, ih, List.length_append]

/-- A loop fed by bytes alone. `Holds` relates its state to the unread bytes, and `Settles` holds
wherever it comes to a result. -/
theorem drive_fed (turn : σ → Turn ε σ ρ) (limit : Option Nat)
    (Holds : σ → Bytes → Prop) (Settles : ρ → σ → Bytes → Prop)
    (turns : ∀ state unread, Holds state unread →
      (∃ result next, turn state = .stop result next ∧ Settles result next unread) ∨
      ∃ next pending, turn state = .await next pending ∧
        (∀ bytes rest, bytes ≠ [] → unread = bytes ++ rest → Holds (pending.data bytes) rest) ∧
        (∀ wait, pending.timer = some wait → Settles pending.elapsed.1 pending.elapsed.2 unread) ∧
        (unread = [] → Settles pending.ended.1 pending.ended.2 []))
    (stream : ByteStream capacity ε) (state : σ) {unread : Bytes}
    (carries : Carries stream.arrivals unread) (holds : Holds state unread) :
    ∃ result next after, drive turn limit state stream = (result, next, after) ∧
      after.ending = stream.ending ∧
      ((∃ outcome left, result = some outcome ∧ Carries after.arrivals left ∧ Settles outcome next left) ∨
        result = none ∧ (limit = none → stream.ending = none ∧
          ∃ last waiting pending, Holds last [] ∧ turn last = .await waiting pending)) := by
  apply drive_rule turn limit (fun state now => now.ending = stream.ending ∧
    ∃ unread, Carries now.arrivals unread ∧ Holds state unread)
  · intro state now result next after sofar steps
    obtain ⟨same, unread, carries, holds⟩ := sofar
    rcases turns state unread holds with
      ⟨outcome, last, stops, settles⟩ | ⟨waiting, pending, awaits, _, expires, ends⟩
    · cases steps with
      | stop stopped =>
        obtain ⟨rfl, rfl⟩ := Turn.stop.inj (stops.symm.trans stopped)
        exact ⟨same, .inl ⟨outcome, unread, rfl, carries, settles⟩⟩
      | ended waits | failed waits | elapsed waits | abandoned waits => cases stops.symm.trans waits
    · cases steps with
      | stop stopped => cases awaits.symm.trans stopped
      | ended waits closed =>
        obtain ⟨rfl, rfl⟩ := Turn.await.inj (awaits.symm.trans waits)
        rcases closed with ⟨chunk, empty, arrived⟩ | ⟨arrived, rfl, _⟩
        · rw [arrived] at carries
          cases carries with
          | cons nonempty => exact absurd empty nonempty
        · rw [arrived] at carries
          cases carries
          exact ⟨same, .inl ⟨_, [], rfl, .nil, ends rfl⟩⟩
      | failed waits arrived =>
        rw [arrived] at carries
        cases carries
      | elapsed waits timed =>
        obtain ⟨rfl, rfl⟩ := Turn.await.inj (awaits.symm.trans waits)
        exact ⟨same, .inl ⟨_, unread, rfl, carries, expires _ timed⟩⟩
      | abandoned waits never =>
        refine ⟨same, .inr ⟨rfl, ?_⟩⟩
        intro unlimited
        have silent := (never unlimited).2
        rw [ready] at silent
        split at silent
        · next nothing =>
          rw [nothing] at carries
          cases carries
          exact ⟨same.symm.trans silent, _, _, _, holds, awaits⟩
        · cases silent
  · intro state now next after sofar steps
    obtain ⟨same, unread, carries, holds⟩ := sofar
    cases steps with
    | data waits arrived nonempty =>
      rw [arrived] at carries
      cases carries with
      | cons _ tail =>
        rcases turns state _ holds with ⟨_, _, stops, _⟩ | ⟨_, pending, awaits, again, _⟩
        · cases stops.symm.trans waits
        · obtain ⟨rfl, rfl⟩ := Turn.await.inj (awaits.symm.trans waits)
          exact ⟨same, _, tail, again _ _ nonempty rfl⟩
  · exact ⟨rfl, unread, carries, holds⟩

theorem drive_settles (turn : σ → Turn ε σ ρ) (limit : Option Nat)
    (Holds : σ → Bytes → Prop) (Settles : ρ → σ → Bytes → Prop)
    (turns : ∀ state unread, Holds state unread →
      (∃ result next, turn state = .stop result next ∧ Settles result next unread) ∨
      ∃ next pending, turn state = .await next pending ∧ unread ≠ [] ∧
        (∀ bytes rest, bytes ≠ [] → unread = bytes ++ rest → Holds (pending.data bytes) rest) ∧
        ∀ wait, pending.timer = some wait → Settles pending.elapsed.1 pending.elapsed.2 unread)
    (stream : ByteStream capacity ε) (state : σ) {unread : Bytes}
    (carries : Carries stream.arrivals unread) (holds : Holds state unread) :
    ∃ result next after, drive turn limit state stream = (result, next, after) ∧
      after.ending = stream.ending ∧
      ((result = none ∧ limit ≠ none) ∨
        ∃ outcome left, result = some outcome ∧ Carries after.arrivals left ∧
          Settles outcome next left) := by
  obtain ⟨result, next, after, drove, same, settled | ⟨rfl, open_end⟩⟩ :=
    drive_fed turn limit Holds Settles (fun state unread holds => by
      obtain stops | ⟨waiting, pending, awaits, unfinished, again, expires⟩ := turns state unread holds
      · exact .inl stops
      · exact .inr ⟨waiting, pending, awaits, again, expires, fun nothing => absurd nothing unfinished⟩)
      stream state carries holds
  · exact ⟨result, next, after, drove, same, .inr settled⟩
  · refine ⟨none, next, after, drove, same, .inl ⟨rfl, ?_⟩⟩
    intro unlimited
    obtain ⟨_, last, waiting, pending, holds, awaits⟩ := open_end unlimited
    obtain ⟨_, _, stops, _⟩ | ⟨_, _, _, unfinished, _⟩ := turns last [] holds
    · cases stops.symm.trans awaits
    · exact unfinished rfl

theorem Carries.delivered {arrivals : List (Arrival capacity ε)} {bytes : Bytes}
    (carries : Carries arrivals bytes) : delivered arrivals = bytes := by
  induction carries with
  | nil => rfl
  | cons _ _ ih => rw [ByteStream.delivered, ih]

theorem Carries.reads {arrivals : List (Arrival capacity ε)} {bytes : Bytes}
    (carries : Carries arrivals bytes) :
    ∀ arrival ∈ arrivals, ∃ chunk, arrival.read = .ok chunk ∧ chunk.val ≠ [] := by
  induction carries with
  | nil =>
    intro arrival inside
    exact absurd inside List.not_mem_nil
  | cons nonempty _ ih =>
    intro arrival inside
    rcases List.mem_cons.mp inside with rfl | later
    · exact ⟨_, rfl, nonempty⟩
    · exact ih arrival later

theorem Carries.later {past coming : List (Arrival capacity ε)} {bytes : Bytes}
    (carries : Carries (past ++ coming) bytes) : Carries coming (ByteStream.delivered coming) := by
  induction past generalizing bytes with
  | nil =>
    rw [List.nil_append] at carries
    rwa [carries.delivered]
  | cons arrival past ih =>
    cases carries with
    | cons _ rest => exact ih rest

theorem drive_concludes (turn : σ → Turn ε σ ρ) (Holds : σ → Bytes → Prop)
    (Settles : ρ → σ → Bytes → Prop)
    (turns : ∀ state unread, Holds state unread →
      (∃ result next, turn state = .stop result next ∧ Settles result next unread) ∨
      ∃ next pending, turn state = .await next pending ∧ pending.timer = none ∧
        (∀ bytes rest, bytes ≠ [] → unread = bytes ++ rest → Holds (pending.data bytes) rest) ∧
        (unread = [] → Settles pending.ended.1 pending.ended.2 []))
    (stream : ByteStream capacity ε) (state : σ) {closing : Nat} {unread : Bytes}
    (ends : stream.ending = some closing) (carries : Carries stream.arrivals unread)
    (holds : Holds state unread) :
    ∃ result next after left, drive turn none state stream = (some result, next, after) ∧
      after.ending = some closing ∧ Carries after.arrivals left ∧ Settles result next left := by
  obtain ⟨result, next, after, drove, same, ⟨outcome, left, rfl, carries, settles⟩ | ⟨rfl, open_end⟩⟩ :=
    drive_fed turn none Holds Settles (fun state unread holds => by
      obtain stops | ⟨waiting, pending, awaits, untimed, again, ended⟩ := turns state unread holds
      · exact .inl stops
      · refine .inr ⟨waiting, pending, awaits, again, ?_, ended⟩
        intro wait timed
        cases untimed.symm.trans timed)
      stream state carries holds
  · exact ⟨outcome, next, after, left, drove, same.trans ends, carries, settles⟩
  · cases ends.symm.trans (open_end rfl).1

theorem drive_waits (turn : σ → Turn ε σ ρ) (Holds : σ → Bytes → Prop)
    (turns : ∀ state unread, Holds state unread →
      ∃ next pending, turn state = .await next pending ∧ pending.timer = none ∧
        ∀ bytes rest, bytes ≠ [] → unread = bytes ++ rest → Holds (pending.data bytes) rest)
    (stream : ByteStream capacity ε) (state : σ) {unread : Bytes} (stays : stream.ending = none)
    (carries : Carries stream.arrivals unread) (holds : Holds state unread) :
    ∃ next after, drive turn none state stream = (none, next, after) := by
  obtain ⟨result, next, after, drove, rfl⟩ := drive_rule turn none
    (fun state now => now.ending = none ∧ ∃ unread, Carries now.arrivals unread ∧ Holds state unread)
    (fun result _ _ => result = none)
    (by
      rintro state now result next after ⟨same, unread, carries, holds⟩ steps
      obtain ⟨waiting, pending, awaits, untimed, _⟩ := turns state unread holds
      cases steps with
      | stop stopped => cases awaits.symm.trans stopped
      | ended _ closed =>
        obtain ⟨chunk, empty, arrived⟩ | ⟨_, _, ends⟩ := closed
        · rw [arrived] at carries
          cases carries with
          | cons nonempty => exact absurd empty nonempty
        · cases same.symm.trans ends
      | failed _ arrived =>
        rw [arrived] at carries
        cases carries
      | elapsed waits timed =>
        obtain ⟨rfl, rfl⟩ := Turn.await.inj (awaits.symm.trans waits)
        cases untimed.symm.trans timed
      | abandoned => rfl)
    (by
      rintro state now next after ⟨same, unread, carries, holds⟩ steps
      obtain ⟨waiting, pending, awaits, _, again⟩ := turns state unread holds
      cases steps with
      | data waits arrived =>
        obtain ⟨rfl, rfl⟩ := Turn.await.inj (awaits.symm.trans waits)
        rw [arrived] at carries
        cases carries with
        | cons nonempty tail => exact ⟨same, _, tail, again _ _ nonempty rfl⟩)
    ⟨stays, unread, carries, holds⟩
  exact ⟨next, after, drove⟩

section Moments

variable {turn : σ → Turn ε σ ρ} {limit : Option Nat} {state other : σ} {stream : ByteStream capacity ε}

/-- The states a loop is in from its first turn on: where a turn begins, where it waits, and
where the loop ends. -/
inductive Visits (turn : σ → Turn ε σ ρ) (limit : Option Nat) : σ → ByteStream capacity ε → σ → Prop
  | here {state : σ} {stream : ByteStream capacity ε} : Visits turn limit state stream state
  | waiting {state next : σ} {stream : ByteStream capacity ε} {pending : Await ε σ ρ} :
      turn state = .await next pending → Visits turn limit state stream next
  | finished {state next : σ} {stream after : ByteStream capacity ε} {result : Option ρ} :
      Advances turn limit state stream (.finished result next after) → Visits turn limit state stream next
  | later {state next last : σ} {stream after : ByteStream capacity ε} :
      Advances turn limit state stream (.reading next after) → Visits turn limit next after last →
      Visits turn limit state stream last

theorem drive_visits {result : Option ρ} {next : σ} {after : ByteStream capacity ε}
    (drove : drive turn limit state stream = (result, next, after)) : Visits turn limit state stream next := by
  refine drove_rule turn limit
    (fun now current => ∀ other, Visits turn limit now current other → Visits turn limit state stream other)
    (fun _ next _ => Visits turn limit state stream next) ?_ ?_ (fun _ visits => visits) drove
  · intro now current result next after sofar steps
    exact sofar next (.finished steps)
  · intro now current next after sofar steps other visits
    exact sofar other (.later steps visits)

/-- A wait none of whose outcomes leaves the invariant. -/
structure Await.Keeps (capacity : Nat) (pending : Await ε σ ρ) (Holds : σ → Prop) : Prop where
  data : ∀ bytes, bytes.length ≤ capacity → Holds (pending.data bytes)
  elapsed : Holds pending.elapsed.2
  ended : Holds pending.ended.2
  failed : ∀ failure, Holds (pending.failed failure).2

structure Keeps (capacity : Nat) (turn : σ → Turn ε σ ρ) (Holds : σ → Prop) : Prop where
  stop : ∀ {state result next}, Holds state → turn state = .stop result next → Holds next
  await : ∀ {state next pending}, Holds state → turn state = .await next pending →
    Holds next ∧ pending.Keeps capacity Holds

theorem Visits.holds {Holds : σ → Prop} (keeps : Keeps capacity turn Holds)
    (visits : Visits turn limit state stream other) (holds : Holds state) : Holds other := by
  induction visits with
  | here => exact holds
  | waiting waits => exact (keeps.await holds waits).1
  | finished steps =>
    cases steps with
    | stop stops => exact keeps.stop holds stops
    | ended waits => exact (keeps.await holds waits).2.ended
    | failed waits => exact (keeps.await holds waits).2.failed _
    | elapsed waits => exact (keeps.await holds waits).2.elapsed
    | abandoned waits => exact (keeps.await holds waits).1
  | later steps _ ih =>
    cases steps with
    | @data _ _ _ chunk _ waits => exact ih ((keeps.await holds waits).2.data chunk.val chunk.property)

end Moments

end ByteStream

namespace ByteSink

/-- What a poll of an operation comes to. -/
inductive Poll (ε α : Type) where
  | pending
  | ready (value : α)
  | failed (failure : ε)

/-- `write_all` against these polls: how it ends, if it does, and the bytes the stream has taken. A
write that takes nothing fails. -/
def writeAll (writeZero : ε) : List (Poll ε Nat) → Bytes → Option (Except ε Unit) × Bytes
  | _, [] => (some (.ok ()), [])
  | [], _ :: _ => (none, [])
  | .pending :: polls, left@(_ :: _) => writeAll writeZero polls left
  | .failed failure :: _, _ :: _ => (some (.error failure), [])
  | .ready 0 :: _, _ :: _ => (some (.error writeZero), [])
  | .ready (count + 1) :: polls, left@(_ :: _) =>
    let (outcome, taken) := writeAll writeZero polls (left.drop (count + 1))
    (outcome, left.take (count + 1) ++ taken)

def flush : List (Poll ε Unit) → Option (Except ε Unit)
  | [] => none
  | .pending :: polls => flush polls
  | .ready () :: _ => some (.ok ())
  | .failed failure :: _ => some (.error failure)

theorem writeAll_takes {writeZero : ε} {polls : List (Poll ε Nat)} {data taken : Bytes}
    {outcome : Option (Except ε Unit)} (wrote : writeAll writeZero polls data = (outcome, taken)) :
    taken <+: data ∧ (outcome = some (.ok ()) → taken = data) := by
  induction polls generalizing data taken with
  | nil =>
    cases data with
    | nil =>
      cases wrote
      exact ⟨List.nil_prefix, fun _ => rfl⟩
    | cons =>
      cases wrote
      exact ⟨List.nil_prefix, fun ended => by cases ended⟩
  | cons poll polls ih =>
    cases data with
    | nil =>
      cases wrote
      exact ⟨List.nil_prefix, fun _ => rfl⟩
    | cons byte rest =>
      rcases poll with _ | (_ | count) | failure
      · exact ih wrote
      · cases wrote
        exact ⟨List.nil_prefix, fun ended => by cases ended⟩
      · rcases others : writeAll writeZero polls ((byte :: rest).drop (count + 1)) with ⟨later, more⟩
        rw [writeAll, others] at wrote
        cases wrote
        obtain ⟨⟨missing, remains⟩, whole⟩ := ih others
        constructor
        · exact ⟨missing, by rw [List.append_assoc, remains, List.take_append_drop]⟩
        · intro ended
          rw [whole ended, List.take_append_drop]
      · cases wrote
        exact ⟨List.nil_prefix, fun ended => by cases ended⟩

end ByteSink
