import Mathlib.Data.List.AList
import Modbus.Client
import Modbus.Runs

/-! The pipelined client: callers that take an identifier and queue a command,
and the background task that writes requests and hands each response to the
caller registered under its identifier. Callers and task take their steps in any
order. -/
namespace Modbus.Pipeline

open Bytes

/-- A `Send` command. The number names the caller's reply channel. -/
structure Command where
  transaction : TransactionId
  unit : UnitId
  request : RequestPdu
  reply : Nat
  deriving DecidableEq, Repr

structure Entry where
  reply : Nat
  key : Nat
  deriving DecidableEq, Repr

structure Answer where
  reply : Nat
  result : Result ResponsePdu
  deriving DecidableEq, Repr

/-- How the delay queue picks the key of a new timer: one not in use. -/
structure KeySupply where
  pick : List Nat → Nat
  fresh : ∀ keys, pick keys ∉ keys

structure Setting where
  /-- A timeout desynchronizes the connection: on TCP it does, on UDP not. -/
  timeoutDesyncs : Bool
  keys : KeySupply

inductive Write where
  | done
  | failed (accepted : Nat) (failure : ReadFailure)
  deriving DecidableEq, Repr

structure Task where
  inFlight : AList fun _ : TransactionId => Entry
  deadlines : AList fun _ : Nat => TransactionId
  issued : List TransactionId
  desynchronized : Bool
  written : List Bytes
  answers : List Answer
  /-- Which frame answered which channel. -/
  delivered : List (Nat × MbapHeader × ResponsePdu)
  /-- Channels dropped without an answer when another entry took their place. -/
  displaced : List Nat

namespace Task

def start : Task := ⟨∅, ∅, [], false, [], [], [], []⟩

def answer (reply : Nat) (result : Result ResponsePdu) (task : Task) : Task :=
  { task with answers := task.answers ++ [⟨reply, result⟩] }

/-- `DelayQueue::remove`, which panics on a key that is not in the queue. -/
def removeTimer (key : Nat) (task : Task) : Option Task :=
  if key ∈ task.deadlines then some { task with deadlines := task.deadlines.erase key } else none

def failEach : List (Sigma fun _ : TransactionId => Entry) → Task → Option Task
  | [], task => some task
  | ⟨_, entry⟩ :: rest, task => do
    let task ← task.removeTimer entry.key
    failEach rest (task.answer entry.reply (.error .desynchronized))

def failAll (task : Task) : Option Task := failEach task.inFlight.entries { task with inFlight := ∅ }

def desynchronize (task : Task) : Option Task := failAll { task with desynchronized := true }

def sendRequest (write : Write) (header : MbapHeader) (request : RequestPdu) (task : Task) :
    Result Unit × Task :=
  match tcp.encodeRequest header request with
  | .error e => (.error e, task)
  | .ok adu =>
    match write with
    | .done => (.ok (), { task with written := task.written ++ [adu] })
    | .failed accepted failure =>
      (.error failure.error, { task with written := task.written ++ [adu.take accepted] })

/-- Register a request that has been written. `DelayQueue::insert` panics on a timeout longer than
its timers can hold; the configured one is taken to be within that. -/
def register (keys : KeySupply) (command : Command) (task : Task) : Task :=
  let key := keys.pick task.deadlines.keys
  { task with
    deadlines := task.deadlines.insert key command.transaction
    inFlight := task.inFlight.insert command.transaction ⟨command.reply, key⟩
    displaced := task.displaced ++
      ((task.inFlight.lookup command.transaction).map Entry.reply).toList }

def takeUp (setting : Setting) (command : Command) (write : Write) (task : Task) : Option Task :=
  if task.desynchronized then some (task.answer command.reply (.error .desynchronized))
  else
    let task := { task with issued := command.transaction :: task.issued }
    let header := ClientFraming.tcp.requestHeader command.unit command.transaction
    match task.sendRequest write header command.request with
    | (.ok (), task) => some (task.register setting.keys command)
    | (.error e, task) =>
      failAll ({ task with desynchronized := true }.answer command.reply (.error e))

def receive (received : Result (MbapHeader × ResponsePdu)) (task : Task) : Option Task :=
  match received with
  | .ok (header, response) =>
    match task.inFlight.lookup header.transactionId with
    | some entry => do
      let task ← { task with inFlight := task.inFlight.erase header.transactionId }.removeTimer entry.key
      some ({ task with
        delivered := task.delivered ++ [(entry.reply, header, response)] }.answer entry.reply
          (.ok response))
    | none =>
      if header.transactionId ∈ task.issued then some task else task.desynchronize
  | .error _ => task.desynchronize

def expire (setting : Setting) (key : Nat) (task : Task) : Option Task :=
  match task.deadlines.lookup key with
  | none => some task
  | some transaction =>
    let task := { task with deadlines := task.deadlines.erase key }
    match task.inFlight.lookup transaction with
    | none => some task
    | some entry =>
      let task := { task with inFlight := task.inFlight.erase transaction }.answer entry.reply
        (.error (.timeout "response"))
      if setting.timeoutDesyncs then task.desynchronize else some task

end Task

structure PipelineConfig where
  responseTimeout : Nat
  maxInFlight : UInt16
  deriving DecidableEq, Repr

structure Shared where
  handles : Nat
  permits : Nat
  nextTransaction : TransactionId
  channels : Nat
  entering : List (UnitId × RequestPdu)
  allocated : List Command
  queue : List Command
  waiting : List Nat
  /-- Every command made, and every result returned to a caller. -/
  commands : List Command
  returned : List Answer
  task : Task
  ended : Bool

def Shared.start (config : PipelineConfig) : Shared where
  handles := 1
  permits := config.maxInFlight.toNat
  nextTransaction := ⟨1⟩
  channels := 0
  entering := []
  allocated := []
  queue := []
  waiting := []
  commands := []
  returned := []
  task := .start
  ended := false

inductive Event where
  /-- `send` or `try_send` with a permit to be had; without one the first waits and the
  second fails, and neither changes anything. -/
  | send (unit : UnitId) (request : RequestPdu)
  | allocate (caller : Nat)
  | enqueue (reply : Nat)
  | abandon (reply : Nat)
  | resolve (reply : Nat)
  | takeUp (write : Write)
  | received (received : Result (MbapHeader × ResponsePdu))
  | expired (key : Nat)
  | clone
  | dropHandle
  | finish
  deriving DecidableEq, Repr

namespace Shared

/-- The task takes a step unless it has ended; no result is a panic. -/
def onTask (act : Task → Option Task) (shared : Shared) : Option Shared :=
  if shared.ended then some shared else (act shared.task).map fun task => { shared with task := task }

def release (reply : Nat) (shared : Shared) : Shared :=
  { shared with waiting := shared.waiting.erase reply, permits := shared.permits + 1 }

def idle (shared : Shared) : Bool :=
  shared.entering.isEmpty && shared.allocated.isEmpty && shared.waiting.isEmpty

def step (setting : Setting) (shared : Shared) : Event → Option Shared
  | .send unit request =>
    if 0 < shared.handles ∧ 0 < shared.permits ∧ shared.task.desynchronized = false then
      some { shared with
        permits := shared.permits - 1
        entering := shared.entering ++ [(unit, request)] }
    else some shared
  | .allocate caller =>
    match shared.entering[caller]? with
    | none => some shared
    | some (unit, request) =>
      let command := ⟨shared.nextTransaction, unit, request, shared.channels⟩
      some { shared with
        entering := shared.entering.eraseIdx caller
        nextTransaction := next shared.nextTransaction
        channels := shared.channels + 1
        allocated := shared.allocated ++ [command]
        commands := shared.commands ++ [command] }
  | .enqueue reply =>
    match shared.allocated.find? (·.reply == reply) with
    | none => some shared
    | some command =>
      some { shared with
        allocated := shared.allocated.erase command
        queue := shared.queue ++ [command]
        waiting := shared.waiting ++ [reply] }
  | .abandon reply => if reply ∈ shared.waiting then some (shared.release reply) else some shared
  | .resolve reply =>
    match shared.task.answers.find? (·.reply == reply) with
    | some answer =>
      if reply ∈ shared.waiting then
        some { shared.release reply with returned := shared.returned ++ [answer] }
      else some shared
    | none => some shared
  | .takeUp write =>
    match shared.queue with
    | [] => some shared
    | command :: queue =>
      (shared.onTask (·.takeUp setting command write)).map fun after =>
        if shared.ended then after else { after with queue := queue }
  | .received received => shared.onTask (·.receive received)
  | .expired key => shared.onTask (·.expire setting key)
  | .clone => if 0 < shared.handles then some { shared with handles := shared.handles + 1 } else some shared
  | .dropHandle =>
    if 1 < shared.handles ∨ (shared.handles = 1 ∧ shared.idle) then
      some { shared with handles := shared.handles - 1 }
    else some shared
  | .finish =>
    if shared.handles = 0 ∧ shared.queue = [] then some { shared with ended := true } else some shared

end Shared

end Modbus.Pipeline
