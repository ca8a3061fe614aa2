import Modbus.ClientHistory

/-! Which response a call takes. A call passes over frames with another header and is
decided by the first result that is not one; its function code then tells a typed
method's own response from every other. -/
namespace Modbus

namespace ClientTransport

variable {Header σ : Type}

/-- The results of receives one after the other, each waited for until a moment. -/
inductive Yields (transport : ClientTransport Header σ) (bound : Nat) :
    σ → List (Result (Header × ResponsePdu)) → σ → Prop
  | nil {state : σ} : Yields transport bound state [] state
  | cons {state middle after : σ} {result : Result (Header × ResponsePdu)}
      {results : List (Result (Header × ResponsePdu))} :
      transport.recvResponse (some bound) state = (some result, middle) →
      Yields transport bound middle results after → Yields transport bound state (result :: results) after

end ClientTransport

/-- A frame with another header than the one sent. -/
def Foreign (sent : Header) (result : Result (Header × ResponsePdu)) : Prop :=
  ∃ received response, result = .ok (received, response) ∧ received ≠ sent

namespace ClientFraming

/-- A received header answers the sent one if it is the same. -/
def Exact (framing : ClientFraming Header) : Prop :=
  ∀ sent received, framing.isResponseTo sent received = true ↔ received = sent

theorem tcp_exact : tcp.Exact := by
  intro sent received
  simp only [tcp, beq_iff_eq]
  exact eq_comm

theorem serial_exact (framing : Framing UnitId) : (serial framing).Exact := by
  intro sent received
  simp only [serial, beq_iff_eq]
  exact eq_comm

end ClientFraming

namespace Client

variable {Header σ : Type}

/-- What the last receive of a call makes of it: its result and the state it leaves. -/
inductive Decided (framing : ClientFraming Header) (sent : Header) (expected : FunctionCode)
    (deadline : Nat) (limit : Option Nat) (initial : ClientState) :
    Option (Result (Header × ResponsePdu)) → Option (Result (Option ResponsePdu)) → ClientState → Prop
  | failed {e : Error} : Decided framing sent expected deadline limit initial
      (some (.error e)) (some (.error e))
      (if e.endsStream || !framing.boundary.isSelfLocating then .unusable (classifyUnusableReason e)
        else .unanswered)
  | answered {response : ResponsePdu} : response.function = expected →
      Decided framing sent expected deadline limit initial
        (some (.ok (sent, response))) (some (.ok (some response))) .answered
  | unexpected {response : ResponsePdu} : response.function ≠ expected →
      Decided framing sent expected deadline limit initial (some (.ok (sent, response)))
        (some (.error (.unexpectedFunction expected response.function))) .answered
  | elapsed : waitUntil deadline limit = deadline →
      Decided framing sent expected deadline limit initial
        none (some (.error (.timeout "response"))) (.unusable .silent)
  | abandoned : waitUntil deadline limit < deadline →
      Decided framing sent expected deadline limit initial none none initial

section Await

variable {framing : ClientFraming Header} {transport : ClientTransport Header σ} {header : Header}
  {expected : FunctionCode} {deadline fuel : Nat} {limit : Option Nat} {client : Client σ}
  {last : Option (Result (Header × ResponsePdu))} {middle after : σ}

theorem waitUntil_le (deadline : Nat) (limit : Option Nat) : waitUntil deadline limit ≤ deadline := by
  cases limit with
  | none => exact Nat.le_refl _
  | some limit => exact Nat.min_le_left _ _

theorem awaitResponse_last (exact : framing.Exact)
    (received : transport.recvResponse (some (waitUntil deadline limit)) client.transport = (last, after))
    (own : ∀ result, last = some result → ¬Foreign header result) :
    ∃ result final, Decided framing header expected deadline limit client.state last result final ∧
      awaitResponse framing transport header expected deadline limit (fuel + 1) client =
        (result, { client with transport := after, state := final }) := by
  rw [awaitResponse]
  rcases last with _ | e | ⟨headerIn, response⟩
  · by_cases early : waitUntil deadline limit < deadline
    · refine ⟨_, _, .abandoned early, ?_⟩
      simp only [received, early, if_true]
    · have full : waitUntil deadline limit = deadline :=
        Nat.le_antisymm (waitUntil_le deadline limit) (Nat.le_of_not_lt early)
      refine ⟨_, _, .elapsed full, ?_⟩
      simp only [received, early, if_false]
  · refine ⟨_, _, .failed, ?_⟩
    simp only [received]
  · have same : headerIn = header := by
      by_contra other
      exact own _ rfl ⟨headerIn, response, rfl, other⟩
    subst same
    have answers := (exact headerIn headerIn).mpr rfl
    by_cases function : response.function = expected
    · refine ⟨_, _, .answered function, ?_⟩
      simp [received, answers, function]
    · refine ⟨_, _, .unexpected function, ?_⟩
      simp [received, answers, function]

theorem awaitResponse_foreign (exact : framing.Exact) {result : Result (Header × ResponsePdu)}
    (received : transport.recvResponse (some (waitUntil deadline limit)) client.transport =
      (some result, middle)) (foreign : Foreign header result) :
    awaitResponse framing transport header expected deadline limit (fuel + 1) client =
      awaitResponse framing transport header expected deadline limit fuel
        { client with transport := middle } := by
  obtain ⟨headerIn, response, rfl, other⟩ := foreign
  have unanswered : framing.isResponseTo header headerIn ≠ true := by
    rw [ne_eq, exact]
    exact other
  rw [awaitResponse]
  simp only [received]
  rw [if_neg unanswered]

theorem awaitResponse_decided (exact : framing.Exact) {others : List (Result (Header × ResponsePdu))}
    {state : σ} (here : client.transport = state)
    (yields : transport.Yields (waitUntil deadline limit) state others middle)
    (foreign : ∀ result ∈ others, Foreign header result)
    (received : transport.recvResponse (some (waitUntil deadline limit)) middle = (last, after))
    (own : ∀ result, last = some result → ¬Foreign header result)
    (enough : transport.remaining state < fuel) :
    ∃ result final, Decided framing header expected deadline limit client.state last result final ∧
      awaitResponse framing transport header expected deadline limit fuel client =
        (result, { client with transport := after, state := final }) := by
  induction yields generalizing client fuel with
  | nil =>
    subst here
    obtain ⟨fuel, rfl⟩ := Nat.exists_eq_succ_of_ne_zero (by omega : fuel ≠ 0)
    exact awaitResponse_last exact received own
  | @cons state middle _ first others receiving _ ih =>
    subst here
    obtain ⟨fuel, rfl⟩ := Nat.exists_eq_succ_of_ne_zero (by omega : fuel ≠ 0)
    have other := foreign first List.mem_cons_self
    rw [awaitResponse_foreign exact receiving other]
    obtain ⟨headerIn, response, rfl, _⟩ := other
    have shorter := transport.consumes receiving
    have later : ∀ result ∈ others, Foreign header result :=
      fun result inside => foreign result (List.mem_cons_of_mem _ inside)
    have here : ({ client with transport := middle } : Client σ).transport = middle := rfl
    exact ih here later received (by omega)

theorem exists_last (transport : ClientTransport Header σ) (header : Header) (bound : Nat) (state : σ) :
    ∃ others middle last after, transport.Yields bound state others middle ∧
      (∀ result ∈ others, Foreign header result) ∧
      transport.recvResponse (some bound) middle = (last, after) ∧
      ∀ result, last = some result → ¬Foreign header result := by
  induction size : transport.remaining state using Nat.strong_induction_on generalizing state with
  | h size ih =>
    rcases received : transport.recvResponse (some bound) state with ⟨last, after⟩
    by_cases foreign : ∃ result, last = some result ∧ Foreign header result
    · obtain ⟨result, rfl, other⟩ := foreign
      have again := other
      obtain ⟨headerIn, response, rfl, _⟩ := again
      have shorter := transport.consumes received
      obtain ⟨others, middle, last, final, yields, foreign, ends, own⟩ := ih _ (by omega) after rfl
      refine ⟨_ :: others, middle, last, final, .cons received yields, ?_, ends, own⟩
      intro result inside
      rcases List.mem_cons.mp inside with rfl | inside
      · exact other
      · exact foreign result inside
    · refine ⟨[], state, last, after, .nil, by simp, received, ?_⟩
      intro result same other
      exact foreign ⟨result, same, other⟩

end Await

/-- A call takes the first result that is not another's frame, and there is one. -/
def Matched (framing : ClientFraming Header) : Prop :=
  ∀ {σ : Type} (transport : ClientTransport Header σ) (unit : UnitId) (request : RequestPdu)
    (limit : Option Nat) (client : Client σ) (state : σ) (pdu : Bytes),
    client.isDesynchronized = false → request.encode = .ok pdu → framing.isBroadcast unit = false →
    transport.sendRequest (framing.requestHeader unit client.nextTransaction) request limit
      client.transport = (some (.ok ()), state) →
    let sent := framing.requestHeader unit client.nextTransaction
    let deadline := transport.expiry client.config.responseTimeout state
    (∃ others middle last after, transport.Yields (waitUntil deadline limit) state others middle ∧
      (∀ result ∈ others, Foreign sent result) ∧
      transport.recvResponse (some (waitUntil deadline limit)) middle = (last, after) ∧
      ∀ result, last = some result → ¬Foreign sent result) ∧
    ∀ others middle last after, transport.Yields (waitUntil deadline limit) state others middle →
      (∀ result ∈ others, Foreign sent result) →
      transport.recvResponse (some (waitUntil deadline limit)) middle = (last, after) →
      (∀ result, last = some result → ¬Foreign sent result) →
      ∃ result final, Decided framing sent request.function deadline limit client.state last result final ∧
        call framing transport unit request limit client = (result, { client with
          transport := after, nextTransaction := next client.nextTransaction, state := final })

theorem matched {framing : ClientFraming Header} (exact : framing.Exact) : Matched framing := by
  intro σ transport unit request limit client state pdu usable encodes single sending sent deadline
  refine ⟨exists_last transport sent _ state, ?_⟩
  intro others middle last after yields foreign received own
  rw [call_sent usable encodes sending, single, if_neg Bool.false_ne_true]
  have here : ({ client with transport := state, nextTransaction := next client.nextTransaction } :
      Client σ).transport = state := rfl
  exact awaitResponse_decided exact here yields foreign received own (Nat.lt_succ_self _)

theorem awaitResponse_function {framing : ClientFraming Header} {transport : ClientTransport Header σ}
    {header : Header} {expected : FunctionCode} {deadline fuel : Nat} {limit : Option Nat}
    {client after : Client σ} {response : ResponsePdu}
    (returned : awaitResponse framing transport header expected deadline limit fuel client =
      (some (.ok (some response)), after)) : response.function = expected := by
  induction fuel generalizing client with
  | zero => cases returned
  | succ fuel ih =>
    rw [awaitResponse] at returned
    rcases received : transport.recvResponse (some (waitUntil deadline limit)) client.transport with
      ⟨_ | e | ⟨headerIn, other⟩, state⟩
    · simp only [received] at returned
      split at returned <;> cases returned
    · simp only [received] at returned
      cases returned
    · simp only [received] at returned
      split at returned
      · by_cases same : other.function = expected
        · simp only [same, ne_eq, not_true_eq_false, if_false] at returned
          cases returned
          exact same
        · simp only [same, ne_eq, not_false_eq_true, if_true] at returned
          cases returned
      · exact ih returned

theorem call_awaited {framing : ClientFraming Header} {transport : ClientTransport Header σ}
    {unit : UnitId} {request : RequestPdu} {limit : Option Nat} {client after : Client σ}
    {response : ResponsePdu}
    (returned : call framing transport unit request limit client = (some (.ok (some response)), after)) :
    ∃ state, transport.sendRequest (framing.requestHeader unit client.nextTransaction) request limit
        client.transport = (some (.ok ()), state) ∧
      awaitResponse framing transport (framing.requestHeader unit client.nextTransaction) request.function
        (transport.expiry client.config.responseTimeout state) limit (transport.remaining state + 1)
        { client with transport := state, nextTransaction := next client.nextTransaction } =
        (some (.ok (some response)), after) := by
  cases usable : client.isDesynchronized with
  | true =>
    rw [call_desynchronized usable] at returned
    cases returned
  | false =>
    cases encodes : request.encode with
    | error e =>
      rw [call_unencodable usable encodes] at returned
      cases returned
    | ok pdu =>
      rcases sending : transport.sendRequest (framing.requestHeader unit client.nextTransaction) request limit
        client.transport with ⟨_ | e | _, state⟩
      · rw [call_dropped usable encodes sending] at returned
        cases returned
      · rw [call_unsent usable encodes sending] at returned
        cases returned
      · rw [call_sent usable encodes sending] at returned
        split at returned
        · cases returned
        · exact ⟨state, rfl, returned⟩

theorem call_function {framing : ClientFraming Header} {transport : ClientTransport Header σ}
    {unit : UnitId} {request : RequestPdu} {limit : Option Nat} {client after : Client σ}
    {response : ResponsePdu}
    (returned : call framing transport unit request limit client = (some (.ok (some response)), after)) :
    response.function = request.function := by
  obtain ⟨state, _, awaited⟩ := call_awaited returned
  exact awaitResponse_function awaited

theorem call_answered {framing : ClientFraming Header} (exact : framing.Exact)
    {transport : ClientTransport Header σ} {unit : UnitId} {request : RequestPdu} {limit : Option Nat}
    {client after : Client σ} {response : ResponsePdu}
    (returned : call framing transport unit request limit client = (some (.ok (some response)), after)) :
    let sent := framing.requestHeader unit client.nextTransaction
    ∃ state others middle,
      transport.sendRequest sent request limit client.transport = (some (.ok ()), state) ∧
      let bound := waitUntil (transport.expiry client.config.responseTimeout state) limit
      transport.Yields bound state others middle ∧ (∀ result ∈ others, Foreign sent result) ∧
        transport.recvResponse (some bound) middle = (some (.ok (sent, response)), after.transport) := by
  obtain ⟨state, sending, awaited⟩ := call_awaited returned
  obtain ⟨others, middle, last, final, yields, foreign, received, own⟩ := exists_last transport
    (framing.requestHeader unit client.nextTransaction)
    (waitUntil (transport.expiry client.config.responseTimeout state) limit) state
  have here : ({ client with transport := state, nextTransaction := next client.nextTransaction } :
      Client σ).transport = state := rfl
  obtain ⟨result, reached, decided, same⟩ := awaitResponse_decided exact here yields foreign received own
    (Nat.lt_succ_self _)
  obtain ⟨rfl, rfl⟩ := Prod.mk.inj (awaited.symm.trans same)
  cases decided with
  | answered => exact ⟨state, others, middle, sending, yields, foreign, received⟩

theorem exchange_ok {framing : ClientFraming Header} {transport : ClientTransport Header σ}
    {limit : Option Nat} {unit : UnitId} {request : RequestPdu} {client after : Client σ}
    {response : ResponsePdu}
    (returned : exchange framing transport limit unit request client = (some (.ok response), after)) :
    framing.isBroadcast unit = false ∧ response.isException = false ∧
      call framing transport unit request limit client = (some (.ok (some response)), after) := by
  unfold exchange at returned
  split at returned
  · cases returned
  next single =>
    rcases called : call framing transport unit request limit client with ⟨_ | e | _ | other, state⟩
    · simp [Operation.check, called] at returned
    · simp [Operation.check, called, Except.bind] at returned
    · simp [Operation.check, called, Except.bind] at returned
    · cases other with
      | exception raised => simp [Operation.check, called, Except.bind] at returned
      | _ =>
        simp only [Operation.check, called, Except.bind, Option.map_some, Prod.mk.injEq,
          Option.some.injEq, Except.ok.injEq] at returned
        obtain ⟨rfl, rfl⟩ := returned
        exact ⟨by simpa using single, rfl, rfl⟩

end Client

/-- A response in the variant of the request. -/
def RequestPdu.Answer : RequestPdu → ResponsePdu → Prop
  | readCoils .., response => ∃ coils, response = .readCoils coils
  | readDiscreteInputs .., response => ∃ inputs, response = .readDiscreteInputs inputs
  | readHoldingRegisters .., response => ∃ registers, response = .readHoldingRegisters registers
  | readInputRegisters .., response => ∃ registers, response = .readInputRegisters registers
  | writeSingleCoil .., response => ∃ address value, response = .writeSingleCoil address value
  | writeSingleRegister .., response => ∃ address value, response = .writeSingleRegister address value
  | writeMultipleCoils .., response => ∃ address quantity, response = .writeMultipleCoils address quantity
  | writeMultipleRegisters .., response =>
    ∃ address quantity, response = .writeMultipleRegisters address quantity
  | maskWriteRegister .., response =>
    ∃ address andMask orMask, response = .maskWriteRegister address andMask orMask
  | readWriteMultipleRegisters .., response =>
    ∃ registers, response = .readWriteMultipleRegisters registers
  | readExceptionStatus, response => ∃ status, response = .readExceptionStatus status
  | diagnostics .., response => ∃ subFunction data, response = .diagnostics subFunction data
  | getCommEventCounter, response => ∃ status eventCount, response = .getCommEventCounter status eventCount
  | getCommEventLog, response => ∃ status eventCount messageCount events,
    response = .getCommEventLog status eventCount messageCount events
  | reportServerId, response => ∃ data, response = .reportServerId data
  | readFileRecord .., response => ∃ records, response = .readFileRecord records
  | writeFileRecord .., response => ∃ records, response = .writeFileRecord records
  | readFifoQueue .., response => ∃ values, response = .readFifoQueue values
  | encapsulatedInterfaceTransport .., response =>
    ∃ inner, response = .encapsulatedInterfaceTransport inner
  | custom code _, response => ∃ data, response = .custom code data

theorem RequestPdu.answer_of_function {request : RequestPdu} {response : ResponsePdu}
    (same : response.function = request.function) (plain : response.isException = false) :
    request.Answer response := by
  cases response with
  | exception => cases plain
  | _ =>
    cases request <;> cases same
    simp [Answer]

namespace Method

/-- Every method but the general call. -/
def IsTyped : Method → Prop
  | call _ => False
  | _ => True

variable {Header σ : Type} {framing : ClientFraming Header} {transport : ClientTransport Header σ}
  {limit : Option Nat} {unit : UnitId} {client after : Client σ} {response : ResponsePdu}

theorem read_of_exchange {request : RequestPdu} {expected : FunctionCode} {body : ResponsePdu → Option α}
    {value : α} (known : body response = some value)
    (exchanged : Client.exchange framing transport limit unit request client = (some (.ok response), after)) :
    Client.read framing transport limit unit request expected body client = (some (.ok value), after) := by
  simp [Client.read, Client.Operation.check, exchanged, Except.bind, known]

theorem write_of_exchange {request : RequestPdu}
    (exchanged : Client.exchange framing transport limit unit request client = (some (.ok response), after)) :
    Client.write framing transport limit unit request client = (some (.ok ()), after) := by
  have single := (Client.exchange_ok exchanged).1
  simp [Client.write, single, Client.Operation.check, exchanged, Except.bind]

theorem perform_of_exchange (method : Method) (typed : method.IsTyped)
    (exchanged : Client.exchange framing transport limit unit method.request client =
      (some (.ok response), after)) (answer : method.request.Answer response) :
    ∃ reply, method.perform framing transport limit unit client = (some (.ok reply), after) := by
  cases method with
  | call => exact typed.elim
  | writeSingleCoil | writeSingleRegister | writeMultipleCoils | writeMultipleRegisters
  | maskWriteRegister | writeFileRecord => exact ⟨(), write_of_exchange exchanged⟩
  | readCoils | readDiscreteInputs | readHoldingRegisters | readInputRegisters
  | readWriteMultipleRegisters | readExceptionStatus | reportServerId | readFileRecord | readFifoQueue
  | encapsulatedInterfaceTransport =>
    obtain ⟨_, rfl⟩ := answer
    exact ⟨_, read_of_exchange rfl exchanged⟩
  | diagnostics | getCommEventCounter =>
    obtain ⟨_, _, rfl⟩ := answer
    exact ⟨_, read_of_exchange rfl exchanged⟩
  | getCommEventLog =>
    obtain ⟨_, _, _, _, rfl⟩ := answer
    exact ⟨_, read_of_exchange rfl exchanged⟩

end Method

/-- A call is decided by the first result that is an error or bears the header sent, and an exchange
that succeeds brings the method's own variant. -/
theorem responses_matched :
    Client.Matched .tcp ∧ (∀ framing, Client.Matched (.serial framing)) ∧
    ∀ {Header σ : Type} (framing : ClientFraming Header) (transport : ClientTransport Header σ)
      (limit : Option Nat) (unit : UnitId) (method : Method) (client after : Client σ)
      (response : ResponsePdu), method.IsTyped →
      Client.exchange framing transport limit unit method.request client = (some (.ok response), after) →
      method.request.Answer response ∧
        ∃ reply, method.perform framing transport limit unit client = (some (.ok reply), after) := by
  refine ⟨Client.matched ClientFraming.tcp_exact,
    fun framing => Client.matched (ClientFraming.serial_exact framing), ?_⟩
  intro Header σ framing transport limit unit method client after response typed exchanged
  obtain ⟨_, plain, called⟩ := Client.exchange_ok exchanged
  have answer := RequestPdu.answer_of_function (Client.call_function called) plain
  exact ⟨answer, method.perform_of_exchange typed exchanged answer⟩

/-- A late reply to another transaction, then the answer. -/
theorem late_reply_passed_over :
    (Client.call .tcp scripted ⟨17⟩ .readExceptionStatus none (.withConfig
      [.ok (⟨⟨9⟩, ⟨17⟩⟩, .readExceptionStatus ⟨4⟩), .ok (⟨⟨1⟩, ⟨17⟩⟩, .readExceptionStatus ⟨5⟩)] .default)).1 =
      some (.ok (some (.readExceptionStatus ⟨5⟩))) := by
  have decides := (responses_matched.1 scripted ⟨17⟩ .readExceptionStatus none (.withConfig
      [.ok (⟨⟨9⟩, ⟨17⟩⟩, .readExceptionStatus ⟨4⟩), .ok (⟨⟨1⟩, ⟨17⟩⟩, .readExceptionStatus ⟨5⟩)] .default)
    _ [7] rfl rfl rfl rfl).2 [.ok (⟨⟨9⟩, ⟨17⟩⟩, .readExceptionStatus ⟨4⟩)] _ _ _ (.cons rfl .nil)
    (by simp [Foreign, ClientFraming.tcp, Client.withConfig]) rfl
    (by simp [Foreign, ClientFraming.tcp, Client.withConfig])
  obtain ⟨result, final, decided, called⟩ := decides
  rw [called]
  cases decided with
  | answered => rfl
  | unexpected other => exact absurd rfl other

end Modbus
