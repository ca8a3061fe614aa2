import Modbus.Client

/-! The client's typed methods. Each builds its request and goes through
`exchange`, which refuses a broadcast and raises an exception response, or through
`write`, for which a broadcast is sent and not awaited. -/
namespace Modbus

open Bytes

structure CommEventCounter where
  status : UInt16
  eventCount : UInt16
  deriving DecidableEq, Repr

structure CommEventLog where
  status : UInt16
  eventCount : UInt16
  messageCount : UInt16
  events : Bytes
  deriving DecidableEq, Repr

/-- Keep the bits asked for and drop the padding the wire adds. -/
def truncate (bits : List Bool) (quantity : Quantity) : List Bool := bits.take quantity.raw.toNat

/-- The failure for a response whose body is not its function code's. -/
def mismatch (expected : FunctionCode) (actual : ResponsePdu) : Error :=
  .unexpectedFunction expected actual.function

namespace Client

/-- What a method does with a client. -/
abbrev Operation (σ α : Type) := Client σ → Option (Result α) × Client σ

/-- Pass on the result of an operation that succeeded. -/
def Operation.check (operation : Operation σ α) (next : α → Result β) : Operation σ β := fun client =>
  match operation client with
  | (result, client) => (result.map (·.bind next), client)

variable {Header σ α : Type} (framing : ClientFraming Header) (transport : ClientTransport Header σ)
  (limit : Option Nat) (unit : UnitId)

/-- A request whose answer the caller needs. -/
def exchange (request : RequestPdu) : Operation σ ResponsePdu := fun client =>
  if framing.isBroadcast unit then (some (.error (.illegalValue "broadcast read" 0)), client)
  else Operation.check (call framing transport unit request limit) (fun
    | none => .error .desynchronized
    | some (.exception response) => .error (.exception response.function response.exception)
    | some response => .ok response) client

/-- A request whose answer carries nothing but an echo. -/
def write (request : RequestPdu) : Operation σ Unit := fun client =>
  if framing.isBroadcast unit then
    Operation.check (call framing transport unit request limit) (fun _ => .ok ()) client
  else Operation.check (exchange framing transport limit unit request) (fun _ => .ok ()) client

/-- An exchange and the part of its response that the method returns. -/
def read (request : RequestPdu) (expected : FunctionCode) (body : ResponsePdu → Option α) :
    Operation σ α :=
  Operation.check (exchange framing transport limit unit request) fun response =>
    match body response with
    | some value => .ok value
    | none => .error (mismatch expected response)

def readCoils (address : Address) (quantity : Quantity) : Operation σ (List Bool) :=
  read framing transport limit unit (.readCoils address quantity) .readCoils fun
    | .readCoils coils => some (truncate coils quantity)
    | _ => none

def readDiscreteInputs (address : Address) (quantity : Quantity) : Operation σ (List Bool) :=
  read framing transport limit unit (.readDiscreteInputs address quantity) .readDiscreteInputs fun
    | .readDiscreteInputs inputs => some (truncate inputs quantity)
    | _ => none

def readHoldingRegisters (address : Address) (quantity : Quantity) : Operation σ (List RegisterValue) :=
  read framing transport limit unit (.readHoldingRegisters address quantity) .readHoldingRegisters fun
    | .readHoldingRegisters registers => some registers
    | _ => none

def readInputRegisters (address : Address) (quantity : Quantity) : Operation σ (List RegisterValue) :=
  read framing transport limit unit (.readInputRegisters address quantity) .readInputRegisters fun
    | .readInputRegisters registers => some registers
    | _ => none

def writeSingleCoil (address : Address) (value : Bool) : Operation σ Unit :=
  write framing transport limit unit (.writeSingleCoil address value)

def writeSingleRegister (address : Address) (value : RegisterValue) : Operation σ Unit :=
  write framing transport limit unit (.writeSingleRegister address value)

def writeMultipleCoils (address : Address) (coils : List Bool) : Operation σ Unit :=
  write framing transport limit unit (.writeMultipleCoils address coils)

def writeMultipleRegisters (address : Address) (registers : List RegisterValue) : Operation σ Unit :=
  write framing transport limit unit (.writeMultipleRegisters address registers)

def maskWriteRegister (address : Address) (andMask orMask : Mask) : Operation σ Unit :=
  write framing transport limit unit (.maskWriteRegister address andMask orMask)

def readWriteMultipleRegisters (readAddress : Address) (readQuantity : Quantity) (writeAddress : Address)
    (registers : List RegisterValue) : Operation σ (List RegisterValue) :=
  read framing transport limit unit
    (.readWriteMultipleRegisters readAddress readQuantity writeAddress registers)
    .readWriteMultipleRegisters fun
    | .readWriteMultipleRegisters registers => some registers
    | _ => none

def readExceptionStatus : Operation σ ExceptionStatus :=
  read framing transport limit unit .readExceptionStatus .readExceptionStatus fun
    | .readExceptionStatus status => some status
    | _ => none

def diagnostics (subFunction : DiagnosticSubFunction) (data : List UInt16) : Operation σ (List UInt16) :=
  read framing transport limit unit (.diagnostics subFunction data) .diagnostics fun
    | .diagnostics _ data => some data
    | _ => none

def getCommEventCounter : Operation σ CommEventCounter :=
  read framing transport limit unit .getCommEventCounter .getCommEventCounter fun
    | .getCommEventCounter status eventCount => some ⟨status, eventCount⟩
    | _ => none

def getCommEventLog : Operation σ CommEventLog :=
  read framing transport limit unit .getCommEventLog .getCommEventLog fun
    | .getCommEventLog status eventCount messageCount events =>
      some ⟨status, eventCount, messageCount, events⟩
    | _ => none

def reportServerId : Operation σ Bytes :=
  read framing transport limit unit .reportServerId .reportServerId fun
    | .reportServerId data => some data
    | _ => none

def readFileRecord (records : List FileRecordRead) : Operation σ (List FileRecordReadResponse) :=
  read framing transport limit unit (.readFileRecord records) .readFileRecord fun
    | .readFileRecord records => some records
    | _ => none

def writeFileRecord (records : List FileRecordWrite) : Operation σ Unit :=
  write framing transport limit unit (.writeFileRecord records)

def readFifoQueue (address : Address) : Operation σ (List RegisterValue) :=
  read framing transport limit unit (.readFifoQueue address) .readFifoQueue fun
    | .readFifoQueue values => some values
    | _ => none

def encapsulatedInterfaceTransport (request : MeiRequest) : Operation σ MeiResponse :=
  read framing transport limit unit (.encapsulatedInterfaceTransport request)
    .encapsulatedInterfaceTransport fun
    | .encapsulatedInterfaceTransport response => some response
    | _ => none

end Client

/-- The client's methods, with their arguments. -/
inductive Method where
  | call (request : RequestPdu)
  | readCoils (address : Address) (quantity : Quantity)
  | readDiscreteInputs (address : Address) (quantity : Quantity)
  | readHoldingRegisters (address : Address) (quantity : Quantity)
  | readInputRegisters (address : Address) (quantity : Quantity)
  | writeSingleCoil (address : Address) (value : Bool)
  | writeSingleRegister (address : Address) (value : RegisterValue)
  | writeMultipleCoils (address : Address) (coils : List Bool)
  | writeMultipleRegisters (address : Address) (registers : List RegisterValue)
  | maskWriteRegister (address : Address) (andMask orMask : Mask)
  | readWriteMultipleRegisters (readAddress : Address) (readQuantity : Quantity) (writeAddress : Address)
      (registers : List RegisterValue)
  | readExceptionStatus
  | diagnostics (subFunction : DiagnosticSubFunction) (data : List UInt16)
  | getCommEventCounter
  | getCommEventLog
  | reportServerId
  | readFileRecord (records : List FileRecordRead)
  | writeFileRecord (records : List FileRecordWrite)
  | readFifoQueue (address : Address)
  | encapsulatedInterfaceTransport (request : MeiRequest)

namespace Method

def request : Method → RequestPdu
  | call request => request
  | readCoils address quantity => .readCoils address quantity
  | readDiscreteInputs address quantity => .readDiscreteInputs address quantity
  | readHoldingRegisters address quantity => .readHoldingRegisters address quantity
  | readInputRegisters address quantity => .readInputRegisters address quantity
  | writeSingleCoil address value => .writeSingleCoil address value
  | writeSingleRegister address value => .writeSingleRegister address value
  | writeMultipleCoils address coils => .writeMultipleCoils address coils
  | writeMultipleRegisters address registers => .writeMultipleRegisters address registers
  | maskWriteRegister address andMask orMask => .maskWriteRegister address andMask orMask
  | readWriteMultipleRegisters readAddress readQuantity writeAddress registers =>
    .readWriteMultipleRegisters readAddress readQuantity writeAddress registers
  | readExceptionStatus => .readExceptionStatus
  | diagnostics subFunction data => .diagnostics subFunction data
  | getCommEventCounter => .getCommEventCounter
  | getCommEventLog => .getCommEventLog
  | reportServerId => .reportServerId
  | readFileRecord records => .readFileRecord records
  | writeFileRecord records => .writeFileRecord records
  | readFifoQueue address => .readFifoQueue address
  | encapsulatedInterfaceTransport request => .encapsulatedInterfaceTransport request

/-- Whether the method cannot do without an answer, and so refuses a broadcast. -/
def reads : Method → Bool
  | call _ | writeSingleCoil .. | writeSingleRegister .. | writeMultipleCoils .. | writeMultipleRegisters ..
  | maskWriteRegister .. | writeFileRecord .. => false
  | _ => true

def Reply : Method → Type
  | call _ => Option ResponsePdu
  | readCoils .. | readDiscreteInputs .. => List Bool
  | readHoldingRegisters .. | readInputRegisters .. | readWriteMultipleRegisters .. | readFifoQueue .. =>
    List RegisterValue
  | writeSingleCoil .. | writeSingleRegister .. | writeMultipleCoils .. | writeMultipleRegisters ..
  | maskWriteRegister .. | writeFileRecord .. => Unit
  | readExceptionStatus => ExceptionStatus
  | diagnostics .. => List UInt16
  | getCommEventCounter => CommEventCounter
  | getCommEventLog => CommEventLog
  | reportServerId => Bytes
  | readFileRecord .. => List FileRecordReadResponse
  | encapsulatedInterfaceTransport .. => MeiResponse

open Client in
def perform (framing : ClientFraming Header) (transport : ClientTransport Header σ) (limit : Option Nat)
    (unit : UnitId) : (method : Method) → Operation σ method.Reply
  | call request => Client.call framing transport unit request limit
  | readCoils address quantity => Client.readCoils framing transport limit unit address quantity
  | readDiscreteInputs address quantity => Client.readDiscreteInputs framing transport limit unit address quantity
  | readHoldingRegisters address quantity =>
    Client.readHoldingRegisters framing transport limit unit address quantity
  | readInputRegisters address quantity => Client.readInputRegisters framing transport limit unit address quantity
  | writeSingleCoil address value => Client.writeSingleCoil framing transport limit unit address value
  | writeSingleRegister address value => Client.writeSingleRegister framing transport limit unit address value
  | writeMultipleCoils address coils => Client.writeMultipleCoils framing transport limit unit address coils
  | writeMultipleRegisters address registers =>
    Client.writeMultipleRegisters framing transport limit unit address registers
  | maskWriteRegister address andMask orMask =>
    Client.maskWriteRegister framing transport limit unit address andMask orMask
  | readWriteMultipleRegisters readAddress readQuantity writeAddress registers =>
    Client.readWriteMultipleRegisters framing transport limit unit readAddress readQuantity writeAddress registers
  | readExceptionStatus => Client.readExceptionStatus framing transport limit unit
  | diagnostics subFunction data => Client.diagnostics framing transport limit unit subFunction data
  | getCommEventCounter => Client.getCommEventCounter framing transport limit unit
  | getCommEventLog => Client.getCommEventLog framing transport limit unit
  | reportServerId => Client.reportServerId framing transport limit unit
  | readFileRecord records => Client.readFileRecord framing transport limit unit records
  | writeFileRecord records => Client.writeFileRecord framing transport limit unit records
  | readFifoQueue address => Client.readFifoQueue framing transport limit unit address
  | encapsulatedInterfaceTransport request =>
    Client.encapsulatedInterfaceTransport framing transport limit unit request

end Method

namespace Client

variable {Header σ α : Type} {framing : ClientFraming Header} {transport : ClientTransport Header σ}
  {limit : Option Nat} {unit : UnitId} {request : RequestPdu}

/-- A method leaves the client as its call does, or refuses to make the call. -/
def Funnels (framing : ClientFraming Header) (transport : ClientTransport Header σ) (limit : Option Nat)
    (unit : UnitId) (request : RequestPdu) (refuses : Bool) (operation : Operation σ α) : Prop :=
  ∀ client, if refuses then operation client = (some (.error (.illegalValue "broadcast read" 0)), client)
    else ∃ result next after, call framing transport unit request limit client = (result, after) ∧
      operation client = (result.map (·.bind next), after)

theorem Funnels.check {refuses : Bool} {operation : Operation σ α}
    (funnels : Funnels framing transport limit unit request refuses operation) (next : α → Result β) :
    Funnels framing transport limit unit request refuses (operation.check next) := by
  intro client
  have called := funnels client
  cases refuses with
  | true => simp_all [Operation.check, Except.bind]
  | false =>
    obtain ⟨result, first, after, calling, operated⟩ := called
    refine ⟨result, fun value => (first value).bind next, after, calling, ?_⟩
    rw [Operation.check, operated]
    rcases result with _ | e | value <;> simp [Except.bind]

theorem call_funnels :
    Funnels framing transport limit unit request false (call framing transport unit request limit) := by
  intro client
  rcases calling : call framing transport unit request limit client with ⟨result, after⟩
  refine ⟨result, .ok, after, rfl, ?_⟩
  rcases result with _ | e | value <;> rfl

theorem exchange_funnels : Funnels framing transport limit unit request (framing.isBroadcast unit)
    (exchange framing transport limit unit request) := by
  intro client
  cases broadcast : framing.isBroadcast unit with
  | true => simp [exchange, broadcast]
  | false =>
    simp only [exchange, broadcast, Bool.false_eq_true, if_false]
    exact call_funnels.check _ client

theorem write_funnels : Funnels framing transport limit unit request false
    (write framing transport limit unit request) := by
  intro client
  cases broadcast : framing.isBroadcast unit with
  | true =>
    simp only [write, broadcast, if_true]
    exact call_funnels.check _ client
  | false =>
    have exchanged : Funnels framing transport limit unit request false
        (exchange framing transport limit unit request) := broadcast ▸ exchange_funnels
    simp only [write, broadcast, Bool.false_eq_true, if_false]
    exact exchanged.check _ client

/-- Every method leaves the client as the call of its request does, unless it refuses a broadcast. -/
theorem perform_funnels (framing : ClientFraming Header) (transport : ClientTransport Header σ)
    (limit : Option Nat) (unit : UnitId) (method : Method) : Funnels framing transport limit unit method.request
    (method.reads && framing.isBroadcast unit) (method.perform framing transport limit unit) := by
  cases method with
  | call => exact call_funnels
  | writeSingleCoil | writeSingleRegister | writeMultipleCoils | writeMultipleRegisters | maskWriteRegister
  | writeFileRecord => exact write_funnels
  | readCoils | readDiscreteInputs | readHoldingRegisters | readInputRegisters | readWriteMultipleRegisters
  | readExceptionStatus | diagnostics | getCommEventCounter | getCommEventLog | reportServerId
  | readFileRecord | readFifoQueue | encapsulatedInterfaceTransport => exact exchange_funnels.check _

/-- On a desynchronized client a method fails and touches nothing. -/
theorem perform_desynchronized (unit : UnitId) (method : Method) {client : Client σ}
    (unusable : client.isDesynchronized = true) :
    ∃ e, method.perform framing transport limit unit client = (some (.error e), client) ∧
      ∀ request, method = .call request → e = .desynchronized := by
  have funnels := perform_funnels framing transport limit unit method client
  cases refuses : method.reads && framing.isBroadcast unit with
  | true =>
    rw [refuses, if_pos rfl] at funnels
    refine ⟨_, funnels, ?_⟩
    intro request same
    rw [same] at refuses
    cases refuses
  | false =>
    rw [refuses, if_neg Bool.false_ne_true] at funnels
    obtain ⟨_, next, _, called, performed⟩ := funnels
    rw [call_desynchronized unusable] at called
    cases called
    exact ⟨_, performed, fun _ _ => rfl⟩

end Client

end Modbus
