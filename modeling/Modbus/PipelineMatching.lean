import Modbus.PipelineIdentifiers

/-! What a pipelined response has to do with its request. The table remembers the
identifier and nothing else, so the unit and the function of a response are the peer's
choice. -/
namespace Modbus.Pipeline

namespace Task

variable {setting : Setting} {task after : Task}

def Unsuccessful (task after : Task) : Prop :=
  after.delivered = task.delivered ∧
    ∀ reply response, ⟨reply, .ok response⟩ ∈ after.answers → ⟨reply, .ok response⟩ ∈ task.answers

theorem unsuccessful_append {reply : Nat} {e : Error} (delivered : after.delivered = task.delivered)
    (answers : after.answers = task.answers ++ [⟨reply, .error e⟩]) : task.Unsuccessful after := by
  refine ⟨delivered, ?_⟩
  intro other response inside
  rw [answers] at inside
  rcases List.mem_append.mp inside with old | fresh
  · exact old
  · cases List.mem_singleton.mp fresh

theorem failures_error {answer : Answer} (inside : answer ∈ task.failures) :
    answer.result = .error .desynchronized := by
  obtain ⟨transaction, entry, _, rfl⟩ := mem_failures.mp inside
  rfl

theorem GivenUp.unsuccessful {first : List Answer} (givenUp : task.GivenUp first after)
    (errors : ∀ answer ∈ first, ∃ e, answer.result = .error e) : task.Unsuccessful after := by
  refine ⟨givenUp.delivered, ?_⟩
  intro reply response inside
  rw [givenUp.answers] at inside
  rcases List.mem_append.mp inside with told | failed
  · rcases List.mem_append.mp told with old | fresh
    · exact old
    · obtain ⟨e, failure⟩ := errors _ fresh
      cases failure
  · cases failures_error failed

theorem TakenUp.unsuccessful {keys : KeySupply} {command : Command} {write : Write}
    (taken : TakenUp keys command write task after) : task.Unsuccessful after := by
  cases taken with
  | refused _ => exact unsuccessful_append rfl rfl
  | registered _ _ issued written => exact ⟨rfl, fun _ _ inside => inside⟩
  | failed _ _ givenUp =>
    apply givenUp.unsuccessful
    intro answer inside
    rw [List.mem_singleton.mp inside]
    exact ⟨_, rfl⟩

theorem Expired.unsuccessful {key : Nat} (taken : Expired setting key task after) :
    task.Unsuccessful after := by
  cases taken with
  | unset => exact ⟨rfl, fun _ _ inside => inside⟩
  | stale _ _ => exact ⟨rfl, fun _ _ inside => inside⟩
  | alone _ resolved delivered => exact unsuccessful_append delivered resolved.answers
  | together _ resolved delivered givenUp =>
    have first := unsuccessful_append delivered resolved.answers
    have second := givenUp.unsuccessful (by simp)
    exact ⟨second.1.trans first.1, fun reply response inside =>
      first.2 reply response (second.2 reply response inside)⟩

end Task

/-- The frame answers this very request. -/
structure Corresponds (command : Command) (header : MbapHeader) (response : ResponsePdu) : Prop where
  transaction : header.transactionId = command.transaction
  unit : header.unitId = command.unit
  function : response.function = command.request.function

/-- A frame under an identifier in the table has the unit and the function of the
request registered there. -/
def Corresponding (shared : Shared) : Event → Prop
  | .received (.ok (header, response)) =>
    ∀ entry, shared.task.inFlight.lookup header.transactionId = some entry →
      ∀ command ∈ shared.commands, command.reply = entry.reply →
        header.unitId = command.unit ∧ response.function = command.request.function
  | _ => True

/-- Every success comes from a frame that answers the request. -/
structure Matched (shared : Shared) : Prop where
  answered : ∀ reply response, ⟨reply, .ok response⟩ ∈ shared.task.answers →
    ∃ header, (reply, header, response) ∈ shared.task.delivered
  own : ∀ reply header response, (reply, header, response) ∈ shared.task.delivered →
    ∃ command ∈ shared.commands, command.reply = reply ∧ Corresponds command header response

namespace Matched

variable {setting : Setting} {shared after : Shared} {event : Event}

theorem unsuccessful (matched : Matched shared) (same : shared.task.Unsuccessful after.task)
    (commands : shared.commands ⊆ after.commands) : Matched after := by
  refine ⟨?_, ?_⟩
  · intro reply response inside
    rw [same.1]
    exact matched.answered reply response (same.2 reply response inside)
  · intro reply header response inside
    rw [same.1] at inside
    obtain ⟨command, made, rest⟩ := matched.own reply header response inside
    exact ⟨command, commands made, rest⟩

theorem received (matched : Matched shared) (sound : shared.Sound)
    {received : Result (MbapHeader × ResponsePdu)} {task : Task}
    (corresponding : Corresponding shared (.received received))
    (took : shared.task.receive received = some task) : Matched { shared with task := task } := by
  cases Task.received sound.ledger.timed took with
  | @answered header response entry _ resolved delivered =>
    obtain ⟨named, made⟩ := sound.ledger.named _ _ resolved.found
    obtain ⟨command, inside, reply⟩ := sound.command made
    obtain ⟨unit, function⟩ := corresponding entry resolved.found command inside reply
    have transaction : header.transactionId = command.transaction := by
      rw [named, sound.named command inside, reply]
    refine ⟨?_, ?_⟩
    · intro other success there
      rw [delivered]
      rw [resolved.answers] at there
      rcases List.mem_append.mp there with old | fresh
      · obtain ⟨header, before⟩ := matched.answered other success old
        exact ⟨header, List.mem_append_left _ before⟩
      · cases List.mem_singleton.mp fresh
        exact ⟨header, List.mem_append_right _ List.mem_cons_self⟩
    · intro other frame success there
      rw [delivered] at there
      rcases List.mem_append.mp there with old | fresh
      · exact matched.own other frame success old
      · cases List.mem_singleton.mp fresh
        exact ⟨command, inside, reply, transaction, unit, function⟩
  | late => exact matched
  | failed givenUp _ =>
    exact matched.unsuccessful (givenUp.unsuccessful (by simp)) (List.Subset.refl _)

theorem step (matched : Matched shared) (sound : shared.Sound)
    (corresponding : Corresponding shared event) (took : shared.step setting event = some after) :
    Matched after := by
  have still : shared.task.Unsuccessful shared.task := ⟨rfl, fun _ _ inside => inside⟩
  cases Shared.stepped took with
  | callers task nextTransaction channels commands =>
    apply matched.unsuccessful
    · rw [task]
      exact still
    · rw [commands]
      exact List.Subset.refl _
  | allocate enters => exact matched.unsuccessful still (List.subset_append_left _ _)
  | enqueue inside => exact matched.unsuccessful still (List.Subset.refl _)
  | takeUp heads taken =>
    exact matched.unsuccessful (Task.takenUp sound.ledger.timed taken).unsuccessful (List.Subset.refl _)
  | received taken => exact matched.received sound corresponding taken
  | expired taken =>
    exact matched.unsuccessful (Task.expired sound.ledger.timed taken).unsuccessful (List.Subset.refl _)

theorem start (config : PipelineConfig) : Matched (.start config) :=
  ⟨fun _ _ inside => absurd inside List.not_mem_nil, fun _ _ _ inside => absurd inside List.not_mem_nil⟩

theorem run {config : PipelineConfig}
    (run : Run (Shared.step setting) Corresponding (.start config) shared) : Matched shared := by
  have both : shared.Sound ∧ Matched shared := by
    apply Run.invariant ⟨Shared.Sound.start config, Matched.start config⟩ ?_ run
    intro before event after holds corresponding took
    exact ⟨holds.1.step took, holds.2.step holds.1 corresponding took⟩
  exact both.2

end Matched

/-- Where the peer answers each identifier with the unit and the function of the request
under it, a success is a frame for the caller's own request. -/
theorem successes_correspond (setting : Setting) (config : PipelineConfig) {shared : Shared}
    (run : Run (Shared.step setting) Corresponding (.start config) shared) {reply : Nat}
    {response : ResponsePdu} (success : ⟨reply, .ok response⟩ ∈ shared.returned) :
    ∃ command ∈ shared.commands, command.reply = reply ∧
      (∀ other ∈ shared.commands, other.reply = reply → other = command) ∧
      ∃ header, (reply, header, response) ∈ shared.task.delivered ∧
        Corresponds command header response := by
  have sound := Shared.Sound.run run
  have matched := Matched.run run
  have answered := sound.returned success
  obtain ⟨header, delivered⟩ := matched.answered reply response answered
  obtain ⟨command, made, own, corresponds⟩ := matched.own reply header response delivered
  refine ⟨command, made, own, ?_, header, delivered, corresponds⟩
  intro other inside same
  have once : (shared.commands.map Command.reply).Nodup := by
    rw [sound.made]
    exact List.nodup_range
  exact List.inj_on_of_nodup_map once inside made (same.trans own.symm)

def asking : List Event := [.send ⟨1⟩ readOne, .allocate 0, .enqueue 0, .takeUp .done]

/-- The answer comes from the unit asked, and is one to the function asked. -/
theorem own_answer_corresponds : ∃ shared header,
    Run (Shared.step overTcp) Corresponding (.start twoInFlight) shared ∧
    shared.returned = [⟨0, .ok (.readHoldingRegisters [⟨100⟩])⟩] ∧
    (0, header, .readHoldingRegisters [⟨100⟩]) ∈ shared.task.delivered ∧
    Corresponds ⟨⟨1⟩, ⟨1⟩, readOne, 0⟩ header (.readHoldingRegisters [⟨100⟩]) := by
  have asks : Run (Shared.step overTcp) Corresponding (.start twoInFlight) _ :=
    Run.follow asking (by simp [asking, Corresponding]) rfl
  have answers := asks.step
    (show Corresponding _ (.received (.ok (⟨⟨1⟩, ⟨1⟩⟩, .readHoldingRegisters [⟨100⟩]))) from by
      intro entry _ command made _
      cases List.mem_singleton.mp made
      exact ⟨rfl, rfl⟩) rfl
  have run := answers.step (show Corresponding _ (.resolve 0) from trivial) rfl
  obtain ⟨command, made, own, unique, header, delivered, corresponds⟩ :=
    successes_correspond overTcp twoInFlight run (List.mem_singleton.mpr rfl)
  cases List.mem_singleton.mp made
  exact ⟨_, header, run, rfl, delivered, corresponds⟩

/-- A frame from another unit and about another function, under the identifier of a request, is
returned to the caller as its response. -/
theorem foreign_frame_returned :
    let response := ResponsePdu.writeSingleRegister ⟨0⟩ ⟨7⟩
    tcp.decodeResponse [0, 1, 0, 0, 0, 6, 2, 6, 0, 0, 0, 7] = .ok (⟨⟨1⟩, ⟨2⟩⟩, response) ∧
    ∃ shared, Run (Shared.step overTcp) Anything (.start twoInFlight) shared ∧
      shared.commands = [⟨⟨1⟩, ⟨1⟩, .readHoldingRegisters ⟨0⟩ ⟨1⟩, 0⟩] ∧
      shared.task.delivered = [(0, ⟨⟨1⟩, ⟨2⟩⟩, response)] ∧
      shared.returned = [⟨0, .ok response⟩] := by
  intro response
  have run : Run (Shared.step overTcp) Anything (.start twoInFlight) _ :=
    Run.follow (asking ++ [.received (.ok (⟨⟨1⟩, ⟨2⟩⟩, response)), .resolve 0])
      (fun _ _ _ => trivial) rfl
  exact ⟨by decide +kernel, _, run, rfl, rfl, rfl⟩

end Modbus.Pipeline
