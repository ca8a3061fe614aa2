import Modbus.ClientMethods

/-! The client's report of itself over whole histories. A transport that records
its traffic shows what each attempt saw; the client's state and the identifiers it
spends are functions of that record. -/
namespace Modbus

/-- What passes between a client and its transport. -/
inductive Traffic (Header : Type) where
  | sent (header : Header) (result : Option (Result Unit))
  | received (result : Option (Result (Header × ResponsePdu)))

def Traffic.written : Traffic Header → Option Header
  | .sent header (some (.ok ())) => some header
  | _ => none

def ClientTransport.recorded (transport : ClientTransport Header σ) :
    ClientTransport Header (σ × List (Traffic Header)) where
  now state := transport.now state.1
  timer state := transport.timer state.1
  sendRequest header request limit state :=
    let (result, after) := transport.sendRequest header request limit state.1
    (result, after, state.2 ++ [.sent header result])
  recvResponse limit state :=
    let (result, after) := transport.recvResponse limit state.1
    (result, after, state.2 ++ [.received result])
  remaining state := transport.remaining state.1
  consumes got := by
    obtain ⟨received, rfl⟩ := Prod.mk.inj got
    exact transport.consumes (Prod.ext received rfl)

/-- A method performed on a unit, how it ended, and the traffic it caused. -/
structure Attempt (Header : Type) where
  unit : UnitId
  method : Method
  outcome : Option (Result Unit)
  traffic : List (Traffic Header)

def attempts (framing : ClientFraming Header) (transport : ClientTransport Header σ) :
    List (UnitId × Method) → Client (σ × List (Traffic Header)) →
      List (Attempt Header) × Client (σ × List (Traffic Header))
  | [], client => ([], client)
  | (unit, method) :: rest, client =>
    let (outcome, client) := method.perform framing transport.recorded none unit
      { client with transport := (client.transport.1, []) }
    let (later, last) := attempts framing transport rest client
    (⟨unit, method, outcome.map (·.map fun _ => ()), client.transport.2⟩ :: later, last)

namespace Attempt

variable {Header : Type}

def written (attempt : Attempt Header) : List Header := attempt.traffic.filterMap Traffic.written

/-- Whether the client learns anything: not from a broadcast that was written, a request that
does not encode, or a broadcast read, which is refused. -/
def counts (framing : ClientFraming Header) (attempt : Attempt Header) : Bool :=
  match attempt.method.request.encode with
  | .error _ => false
  | .ok _ => !(framing.isBroadcast attempt.unit && (attempt.method.reads || !attempt.written.isEmpty))

def Answered (framing : ClientFraming Header) (attempt : Attempt Header) : Prop :=
  ∃ sent received response, sent ∈ attempt.written ∧
    .received (some (.ok (received, response))) ∈ attempt.traffic ∧
    framing.isResponseTo sent received = true

/-- The attempt ended in a failed receive that costs a frame, where the next one can be found. -/
def Unanswered (framing : ClientFraming Header) (attempt : Attempt Header) : Prop :=
  framing.boundary.isSelfLocating = true ∧
    ∃ e, attempt.traffic.getLast? = some (.received (some (.error e))) ∧ e.endsStream = false

end Attempt

/-- The requests written in a history, each with the unit it is for. -/
def requests (history : List (Attempt Header)) : List (UnitId × Header) :=
  history.flatMap fun attempt => attempt.written.map fun header => (attempt.unit, header)

/-- How the client's last state comes from the attempts since the first. -/
def Reports (framing : ClientFraming Header) (first : ClientState) (history : List (Attempt Header))
    (last : ClientState) : Prop :=
  match (history.filter (·.counts framing)).getLast? with
  | none => last = first
  | some attempt =>
    (last = .answered ↔ attempt.Answered framing) ∧
    (last = .unanswered ↔ attempt.Unanswered framing) ∧
    ((∃ reason, last = .unusable reason) ↔ ¬attempt.Answered framing ∧ ¬attempt.Unanswered framing)

namespace Client

variable {Header σ : Type}

/-- How the wait for a response ends, and the state it leaves. -/
inductive Verdict (framing : ClientFraming Header) (sent : Header) :
    Option (Result (Header × ResponsePdu)) → ClientState → Prop
  | answered {received : Header} {response : ResponsePdu} : framing.isResponseTo sent received = true →
      Verdict framing sent (some (.ok (received, response))) .answered
  | unanswered {e : Error} : e.endsStream = false → framing.boundary.isSelfLocating = true →
      Verdict framing sent (some (.error e)) .unanswered
  | ended {e : Error} : (e.endsStream || !framing.boundary.isSelfLocating) = true →
      Verdict framing sent (some (.error e)) (.unusable (classifyUnusableReason e))
  | elapsed : Verdict framing sent none (.unusable .silent)

def Discarded (framing : ClientFraming Header) (sent : Header) (traffic : Traffic Header) : Prop :=
  ∃ received response, traffic = .received (some (.ok (received, response))) ∧
    framing.isResponseTo sent received = false

/-- The course of a call: its traffic, and the state and identifier it leaves. -/
inductive Course (framing : ClientFraming Header) (unit : UnitId) (request : RequestPdu)
    (state : ClientState) (transaction : TransactionId) :
    List (Traffic Header) → ClientState → TransactionId → Prop
  | refused {reason : UnusableReason} : state = .unusable reason →
      Course framing unit request state transaction [] state transaction
  | unencodable {e : Error} : request.encode = .error e →
      Course framing unit request state transaction [] state transaction
  | unsent {e : Error} {pdu : Bytes} : request.encode = .ok pdu →
      Course framing unit request state transaction
        [.sent (framing.requestHeader unit transaction) (some (.error e))]
        (.unusable (classifyUnusableReason e)) transaction
  | broadcast {pdu : Bytes} : request.encode = .ok pdu → framing.isBroadcast unit = true →
      Course framing unit request state transaction
        [.sent (framing.requestHeader unit transaction) (some (.ok ()))] state (next transaction)
  | awaited {pdu : Bytes} {discarded : List (Traffic Header)}
      {last : Option (Result (Header × ResponsePdu))} {final : ClientState} :
      request.encode = .ok pdu → framing.isBroadcast unit = false →
      (∀ traffic ∈ discarded, Discarded framing (framing.requestHeader unit transaction) traffic) →
      Verdict framing (framing.requestHeader unit transaction) last final →
      Course framing unit request state transaction
        (.sent (framing.requestHeader unit transaction) (some (.ok ())) :: discarded ++ [.received last])
        final (next transaction)

section Calls

variable {framing : ClientFraming Header} {transport : ClientTransport Header σ}

theorem awaitResponse_verdict {header : Header} {expected : FunctionCode} {deadline fuel : Nat}
    {client after : Client (σ × List (Traffic Header))} {result : Result (Option ResponsePdu)}
    (awaited : awaitResponse framing transport.recorded header expected deadline none fuel client =
      (some result, after)) :
    ∃ discarded last, after.transport.2 = client.transport.2 ++ (discarded ++ [.received last]) ∧
      (∀ traffic ∈ discarded, Discarded framing header traffic) ∧ Verdict framing header last after.state ∧
      after.nextTransaction = client.nextTransaction := by
  induction fuel generalizing client with
  | zero => cases awaited
  | succ fuel ih =>
    rw [awaitResponse, waitUntil] at awaited
    rcases receiving : transport.recvResponse (some deadline) client.transport.1 with
      ⟨_ | e | ⟨received, response⟩, state⟩
    · simp only [ClientTransport.recorded, receiving, Nat.lt_irrefl, if_false] at awaited
      cases awaited
      exact ⟨[], none, rfl, by simp, .elapsed, rfl⟩
    · simp only [ClientTransport.recorded, receiving] at awaited
      cases awaited
      refine ⟨[], some (.error e), rfl, by simp, ?_, rfl⟩
      cases ends : (e.endsStream || !framing.boundary.isSelfLocating) with
      | true => exact .ended ends
      | false =>
        obtain ⟨survivable, selfLocating⟩ := Bool.or_eq_false_iff.mp ends
        exact .unanswered survivable (by simpa using selfLocating)
    · simp only [ClientTransport.recorded, receiving] at awaited
      cases matching : framing.isResponseTo header received with
      | true =>
        simp only [matching, if_true] at awaited
        split at awaited <;> cases awaited
        · exact ⟨[], _, rfl, by simp, .answered matching, rfl⟩
        · exact ⟨[], _, rfl, by simp, .answered matching, rfl⟩
      | false =>
        simp only [matching, Bool.false_eq_true, if_false] at awaited
        obtain ⟨discarded, last, traffic, others, verdict, kept⟩ := ih awaited
        refine ⟨.received (some (.ok (received, response))) :: discarded, last, ?_, ?_, verdict, kept⟩
        · rw [traffic]
          simp
        · intro other inside
          rcases List.mem_cons.mp inside with rfl | inside
          · exact ⟨received, response, rfl, matching⟩
          · exact others other inside

theorem recorded_send {header : Header} {request : RequestPdu} {limit : Option Nat}
    {client : Client (σ × List (Traffic Header))} {result : Option (Result Unit)} {state : σ}
    (sending : transport.sendRequest header request limit client.transport.1 = (result, state)) :
    transport.recorded.sendRequest header request limit client.transport =
      (result, state, client.transport.2 ++ [.sent header result]) := by
  simp [ClientTransport.recorded, sending]

theorem isDesynchronized_iff {client : Client σ} :
    client.isDesynchronized = true ↔ ∃ reason, client.state = .unusable reason := by
  unfold isDesynchronized
  cases client.state <;> simp

theorem call_course {unit : UnitId} {request : RequestPdu} {client after : Client (σ × List (Traffic Header))}
    {result : Result (Option ResponsePdu)}
    (called : call framing transport.recorded unit request none client = (some result, after)) :
    ∃ traffic, after.transport.2 = client.transport.2 ++ traffic ∧
      Course framing unit request client.state client.nextTransaction traffic after.state
        after.nextTransaction := by
  cases usable : client.isDesynchronized with
  | true =>
    rw [call_desynchronized usable] at called
    cases called
    obtain ⟨reason, unusable⟩ := isDesynchronized_iff.mp usable
    exact ⟨[], by simp, .refused unusable⟩
  | false =>
    cases encodes : request.encode with
    | error e =>
      rw [call_unencodable usable encodes] at called
      cases called
      exact ⟨[], by simp, .unencodable encodes⟩
    | ok pdu =>
      rcases sending : transport.sendRequest (framing.requestHeader unit client.nextTransaction) request none
        client.transport.1 with ⟨_ | e | _, state⟩
      · simp [call, usable, encodes, recorded_send sending] at called
      · rw [call_unsent usable encodes (recorded_send sending)] at called
        cases called
        exact ⟨_, rfl, .unsent encodes⟩
      · rw [call_sent usable encodes (recorded_send sending)] at called
        cases broadcast : framing.isBroadcast unit with
        | true =>
          rw [broadcast] at called
          cases called
          exact ⟨_, rfl, .broadcast encodes broadcast⟩
        | false =>
          rw [broadcast, if_neg Bool.false_ne_true] at called
          obtain ⟨discarded, last, traffic, others, verdict, kept⟩ := awaitResponse_verdict called
          rw [traffic, kept, List.append_assoc]
          exact ⟨_, rfl, .awaited encodes broadcast others verdict⟩

theorem perform_course {unit : UnitId} {method : Method} {client after : Client (σ × List (Traffic Header))}
    {result : Result method.Reply}
    (performed : method.perform framing transport.recorded none unit client = (some result, after)) :
    ((method.reads && framing.isBroadcast unit) = true ∧ after = client) ∨
    ((method.reads && framing.isBroadcast unit) = false ∧
      ∃ traffic, after.transport.2 = client.transport.2 ++ traffic ∧
        Course framing unit method.request client.state client.nextTransaction traffic after.state
          after.nextTransaction) := by
  have funnels := perform_funnels framing transport.recorded none unit method client
  cases refuses : method.reads && framing.isBroadcast unit with
  | true =>
    rw [refuses, if_pos rfl, performed] at funnels
    cases funnels
    exact .inl ⟨rfl, rfl⟩
  | false =>
    rw [refuses, if_neg Bool.false_ne_true] at funnels
    obtain ⟨answer, _, state, called, same⟩ := funnels
    rw [performed] at same
    rcases answer with _ | answer
    · cases same
    · cases same
      exact .inr ⟨rfl, call_course called⟩

end Calls

section Attempts

variable {framing : ClientFraming Header} {unit : UnitId} {method : Method} {outcome : Option (Result Unit)}
  {state final : ClientState} {transaction following : TransactionId} {traffic : List (Traffic Header)}
  {sent : Header} {discarded : List (Traffic Header)} {last : Option (Result (Header × ResponsePdu))}

theorem written_awaited (others : ∀ traffic ∈ discarded, Discarded framing sent traffic) :
    Attempt.written ⟨unit, method, outcome, .sent sent (some (.ok ())) :: discarded ++ [.received last]⟩ =
      [sent] := by
  have nothing : discarded.filterMap Traffic.written = [] := by
    rw [List.filterMap_eq_nil_iff]
    intro traffic inside
    obtain ⟨received, response, rfl, _⟩ := others traffic inside
    rfl
  simp [Attempt.written, Traffic.written, nothing]

theorem Course.spends
    (course : Course framing unit method.request state transaction traffic final following) :
    Attempt.written ⟨unit, method, outcome, traffic⟩ = [] ∧ following = transaction ∨
    Attempt.written ⟨unit, method, outcome, traffic⟩ = [framing.requestHeader unit transaction] ∧
      following = next transaction := by
  cases course with
  | refused | unencodable | unsent => exact .inl ⟨rfl, rfl⟩
  | broadcast => exact .inr ⟨rfl, rfl⟩
  | awaited _ _ others _ => exact .inr ⟨written_awaited others, rfl⟩

theorem answered_awaited (others : ∀ traffic ∈ discarded, Discarded framing sent traffic) :
    Attempt.Answered framing ⟨unit, method, outcome, .sent sent (some (.ok ())) :: discarded ++ [.received last]⟩ ↔
      ∃ received response, last = some (.ok (received, response)) ∧ framing.isResponseTo sent received = true := by
  unfold Attempt.Answered
  rw [written_awaited others]
  constructor
  · intro ⟨header, received, response, here, inside, matching⟩
    obtain rfl := List.mem_singleton.mp here
    simp only [List.cons_append, List.mem_cons, List.mem_append, reduceCtorEq, false_or,
      List.not_mem_nil, or_false] at inside
    rcases inside with inside | same
    · obtain ⟨_, _, same, different⟩ := others _ inside
      cases same
      rw [matching] at different
      cases different
    · cases same
      exact ⟨received, response, rfl, matching⟩
  · intro ⟨received, response, same, matching⟩
    exact ⟨sent, received, response, List.mem_singleton_self sent, by simp [same], matching⟩

theorem unanswered_awaited :
    Attempt.Unanswered framing ⟨unit, method, outcome, .sent sent (some (.ok ())) :: discarded ++ [.received last]⟩ ↔
      framing.boundary.isSelfLocating = true ∧ ∃ e, last = some (.error e) ∧ e.endsStream = false := by
  rw [Attempt.Unanswered, List.getLast?_concat]
  simp

theorem reports_one {attempt : Attempt Header} (counted : attempt.counts framing = true) :
    Reports framing state [attempt] final ↔
      (final = .answered ↔ attempt.Answered framing) ∧ (final = .unanswered ↔ attempt.Unanswered framing) ∧
      ((∃ reason, final = .unusable reason) ↔ ¬attempt.Answered framing ∧ ¬attempt.Unanswered framing) := by
  simp [Reports, counted]

theorem reports_unwritten {pdu : Bytes} {reason : UnusableReason} (encodes : method.request.encode = .ok pdu)
    (wanted : (method.reads && framing.isBroadcast unit) = false)
    (nothing : traffic.filterMap Traffic.written = [])
    (sends : ∀ e, traffic.getLast? ≠ some (.received (some (.error e)))) :
    Reports framing state [⟨unit, method, outcome, traffic⟩] (.unusable reason) := by
  have counted : Attempt.counts framing ⟨unit, method, outcome, traffic⟩ = true := by
    simp only [Attempt.counts, encodes, Attempt.written, nothing]
    simpa [Bool.and_comm, imp_iff_not_or] using wanted
  have silent : ¬Attempt.Answered framing ⟨unit, method, outcome, traffic⟩ := by
    simp [Attempt.Answered, Attempt.written, nothing]
  have lost : ¬Attempt.Unanswered framing ⟨unit, method, outcome, traffic⟩ := by
    intro ⟨_, e, failed, _⟩
    exact sends e failed
  rw [reports_one counted]
  simp [silent, lost]

theorem Course.reports (wanted : (method.reads && framing.isBroadcast unit) = false)
    (course : Course framing unit method.request state transaction traffic final following) :
    Reports framing state [⟨unit, method, outcome, traffic⟩] final := by
  cases course with
  | refused unusable =>
    cases encodes : method.request.encode with
    | error e => simp [Reports, Attempt.counts, encodes]
    | ok pdu =>
      rw [unusable]
      exact reports_unwritten encodes wanted rfl (by simp)
  | unencodable fails => simp [Reports, Attempt.counts, fails]
  | unsent encodes => exact reports_unwritten encodes wanted rfl (by simp)
  | broadcast encodes broadcast =>
    simp [Reports, Attempt.counts, encodes, broadcast, Attempt.written, Traffic.written]
  | awaited encodes unicast others verdict =>
    rw [reports_one (by simp [Attempt.counts, encodes, unicast]), answered_awaited others, unanswered_awaited]
    cases verdict with
    | answered matching => simp [matching]
    | unanswered survivable selfLocating => simp [survivable, selfLocating]
    | ended ends =>
      simp only [Bool.or_eq_true, Bool.not_eq_true'] at ends
      rcases ends with ends | lost
      · simp [ends]
      · simp [lost]
    | elapsed => simp

theorem reports_cons {attempt : Attempt Header} {history : List (Attempt Header)} {middle : ClientState}
    (one : Reports framing state [attempt] middle) (rest : Reports framing middle history final) :
    Reports framing state (attempt :: history) final := by
  cases counted : attempt.counts framing with
  | false =>
    obtain rfl : middle = state := by simpa [Reports, counted] using one
    simpa [Reports, counted] using rest
  | true =>
    have filtered : (attempt :: history).filter (·.counts framing) =
        attempt :: history.filter (·.counts framing) := List.filter_cons_of_pos counted
    rw [reports_one counted] at one
    rw [Reports] at rest ⊢
    rw [filtered, List.getLast?_cons]
    cases later : (history.filter (·.counts framing)).getLast? with
    | none =>
      rw [later] at rest
      exact rest ▸ one
    | some decisive =>
      rw [later] at rest
      exact rest

end Attempts

section Histories

variable {framing : ClientFraming Header} {transport : ClientTransport Header σ} {unit : UnitId}
  {method : Method} {client after : Client (σ × List (Traffic Header))}

theorem perform_attempt {result : Result method.Reply}
    (performed : method.perform framing transport.recorded none unit
      { client with transport := (client.transport.1, []) } = (some result, after)) (outcome : Option (Result Unit)) :
    Reports framing client.state [⟨unit, method, outcome, after.transport.2⟩] after.state ∧
    (Attempt.written ⟨unit, method, outcome, after.transport.2⟩ = [] ∧
      after.nextTransaction = client.nextTransaction ∨
    Attempt.written ⟨unit, method, outcome, after.transport.2⟩ =
        [framing.requestHeader unit client.nextTransaction] ∧
      after.nextTransaction = next client.nextTransaction) := by
  rcases perform_course performed with ⟨refused, rfl⟩ | ⟨wanted, traffic, recorded, course⟩
  · obtain ⟨reads, broadcast⟩ := Bool.and_eq_true_iff.mp refused
    refine ⟨?_, .inl ⟨rfl, rfl⟩⟩
    cases encodes : method.request.encode <;> simp [Reports, Attempt.counts, encodes, reads, broadcast]
  · rw [recorded, List.nil_append]
    exact ⟨course.reports wanted, course.spends⟩

theorem attempts_reports (methods : List (UnitId × Method))
    (completed : ∀ attempt ∈ (attempts framing transport methods client).1, attempt.outcome ≠ none) :
    Reports framing client.state (attempts framing transport methods client).1
      (attempts framing transport methods client).2.state := by
  induction methods generalizing client with
  | nil => simp [attempts, Reports]
  | cons called rest ih =>
    obtain ⟨unit, method⟩ := called
    rcases performed : method.perform framing transport.recorded none unit
      { client with transport := (client.transport.1, []) } with ⟨_ | result, after⟩
    · simp [attempts, performed] at completed
    · simp only [attempts, performed, List.mem_cons, forall_eq_or_imp] at completed ⊢
      exact reports_cons (perform_attempt performed _).1 (ih completed.2)

theorem attempts_number (methods : List (UnitId × Method)) {count : Nat}
    (numbered : client.nextTransaction = idOf count)
    (completed : ∀ attempt ∈ (attempts framing transport methods client).1, attempt.outcome ≠ none)
    {k : Nat} {unit : UnitId} {header : Header}
    (written : (requests (attempts framing transport methods client).1)[k]? = some (unit, header)) :
    header = framing.requestHeader unit (idOf (count + k)) := by
  induction methods generalizing client count k with
  | nil => simp [attempts, requests] at written
  | cons called rest ih =>
    obtain ⟨addressed, method⟩ := called
    rcases performed : method.perform framing transport.recorded none addressed
      { client with transport := (client.transport.1, []) } with ⟨_ | result, after⟩
    · simp [attempts, performed] at completed
    · simp only [attempts, performed, List.mem_cons, forall_eq_or_imp] at completed written
      rw [requests, List.flatMap_cons] at written
      rcases (perform_attempt performed ((some result).map (·.map fun _ => ()))).2 with
        ⟨nothing, kept⟩ | ⟨one, spent⟩
      · rw [nothing] at written
        exact ih (kept.trans numbered) completed.2 written
      · rw [one] at written
        cases k with
        | zero =>
          cases written
          rw [numbered, Nat.add_zero]
        | succ k =>
          have later := ih (spent.trans (numbered ▸ next_idOf count)) completed.2 written
          rw [later, Nat.add_assoc, Nat.add_comm 1]

theorem attempts_unusable (methods : List (UnitId × Method)) {reason : UnusableReason}
    (unusable : client.state = .unusable reason) :
    (attempts framing transport methods client).2.state = .unusable reason ∧
    (attempts framing transport methods client).2.nextTransaction = client.nextTransaction ∧
    (attempts framing transport methods client).2.transport.1 = client.transport.1 ∧
    ∀ attempt ∈ (attempts framing transport methods client).1, attempt.traffic = [] ∧
      ∀ request, attempt.method = .call request → attempt.outcome = some (.error .desynchronized) := by
  induction methods generalizing client with
  | nil => simp [attempts, unusable]
  | cons called rest ih =>
    obtain ⟨unit, method⟩ := called
    obtain ⟨e, performed, calls⟩ : ∃ e, method.perform framing transport.recorded none unit
        { client with transport := (client.transport.1, []) } =
          (some (.error e), { client with transport := (client.transport.1, []) }) ∧
        ∀ request, method = .call request → e = .desynchronized :=
      perform_desynchronized unit method (isDesynchronized_iff.mpr ⟨reason, unusable⟩)
    obtain ⟨state, transaction, untouched, others⟩ :=
      @ih { client with transport := (client.transport.1, []) } unusable
    simp only [attempts, performed]
    refine ⟨state, transaction, untouched, ?_⟩
    intro attempt inside
    rcases List.mem_cons.mp inside with rfl | inside
    · refine ⟨rfl, ?_⟩
      intro request same
      rw [calls request same]
      rfl
    · exact others attempt inside

end Histories

end Client

/-- An unusable client never changes, the state of a client comes from the last attempt it could
learn from, and its requests are numbered from 1 to 65535 in turn. -/
theorem client_reports_its_history {Header σ : Type} (framing : ClientFraming Header)
    (transport : ClientTransport Header σ) :
    (∀ (client : Client (σ × List (Traffic Header))) reason, client.state = .unusable reason →
      ∀ methods, let (history, after) := attempts framing transport methods client
        after.state = .unusable reason ∧ after.nextTransaction = client.nextTransaction ∧
        after.transport.1 = client.transport.1 ∧
        ∀ attempt ∈ history, attempt.traffic = [] ∧
          ∀ request, attempt.method = .call request → attempt.outcome = some (.error .desynchronized)) ∧
    ∀ state config methods,
      let (history, after) := attempts framing transport methods (.withConfig (state, []) config)
      (∀ attempt ∈ history, attempt.outcome ≠ none) →
      Reports framing .untried history after.state ∧
      ∀ k unit header, (requests history)[k]? = some (unit, header) →
        header = framing.requestHeader unit ⟨UInt16.ofNat (k % 65535 + 1)⟩ := by
  constructor
  · intro client reason unusable methods
    exact Client.attempts_unusable methods unusable
  · intro state config methods completed
    refine ⟨Client.attempts_reports methods completed, ?_⟩
    intro k unit header written
    have first : (Client.withConfig (state, ([] : List (Traffic Header))) config).nextTransaction = idOf 0 := rfl
    rw [Client.attempts_number methods first completed written, Nat.zero_add]
    rfl

/-- A transport that writes everything and receives these results, then nothing. -/
def scripted : ClientTransport Header (List (Result (Header × ResponsePdu))) where
  now _ := 0
  timer _ := .exact
  sendRequest _ _ _ script := (some (.ok ()), script)
  recvResponse _
    | [] => (none, [])
    | result :: rest => (some result, rest)
  remaining := List.length
  consumes {limit script received after} got := by
    cases script with
    | nil => cases got
    | cons result rest =>
      cases got
      exact Nat.lt_succ_self _

/-- A broadcast, a damaged answer and a request that does not encode; then silence, after which
the client is unusable. -/
theorem damaged_answer_then_silence :
    let damaged := attempts (.serial ascii) scripted
      [(⟨0⟩, .writeSingleCoil ⟨0⟩ true), (⟨1⟩, .readCoils ⟨0⟩ ⟨8⟩), (⟨1⟩, .readCoils ⟨0⟩ ⟨0⟩)]
      (.withConfig ([.error (.checksum 0 1)], []) .default)
    let silent := attempts (.serial ascii) scripted [(⟨1⟩, .readCoils ⟨0⟩ ⟨8⟩)]
      (.withConfig ([], []) .default)
    let after := attempts (.serial ascii) scripted [(⟨1⟩, .call .readExceptionStatus)] silent.2
    (damaged.2.state = .unanswered ∧ Reports (.serial ascii) .untried damaged.1 damaged.2.state) ∧
    silent.2.state = .unusable .silent ∧ after.2.state = .unusable .silent ∧
    after.2.nextTransaction = silent.2.nextTransaction := by
  intro damaged silent after
  obtain ⟨absorbing, reports⟩ := client_reports_its_history (.serial ascii) scripted
  have unusable : silent.2.state = .unusable .silent := by decide
  obtain ⟨kept, transaction, _⟩ := absorbing silent.2 .silent unusable [(⟨1⟩, .call .readExceptionStatus)]
  exact ⟨⟨by decide, (reports _ _ _ (by decide)).1⟩, unusable, kept, transaction⟩

end Modbus
