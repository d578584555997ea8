import SvmCourse.Core.Number
import SvmCourse.Transactions.Publisher

/-!
# The Event Consumer

Every message of the topic is handled once. What its event asks for is done,
and the offset is committed. When that fails the message is emitted again with
its retry count increased, or sent to the dead letter queue when it has been
retried often enough, and the offset is committed as well.

How the handler of an event and the emits end is up to the outside. A failed
retry emit goes on as an exception, and then nothing is committed. A failed
dead letter emit is logged and forgotten. A message without a value raises an
exception where its event is looked at, and again where that exception is
logged.

The topic keeps the messages with what has become of them. A message somebody
publishes begins a chain, and what is emitted again belongs to the chain of the
message it repeats.

## Main definitions

* `EventMessage`: What the consumer receives.
* `EventMessage.retryCount`: How often it says it has been retried.
* `handleTransactionEvent`: What the consumer does with a message.
* `Topic`: The messages and what has become of them.
* `TopicCall`, `advance`: The topic as a machine.

## Theorems

* `advance_cases`: What one step does to the topic.
-/

namespace SvmCourse

namespace Transactions

open Core Machine

/-- The part of an event the consumer looks at. -/
structure ReceivedEvent where
  eventType : String
  transactionId : String
  deriving DecidableEq

/-- A message of the topic. -/
structure EventMessage where
  key : String
  value : Option ReceivedEvent
  headers : Option (List (String × String))
  deriving DecidableEq

/-- How often a message is repeated. -/
def MAX_RETRIES : Int := 3

namespace EventMessage

/-- The header of that name. -/
def header (message : EventMessage) (name : String) : Option String :=
  message.headers.bind fun headers => headers.lookup name

/-- A missing or empty header counts as none. -/
def retryCount (message : EventMessage) : Number :=
  match message.header "retry-count" with
  | none => .int 0
  | some "" => .int 0
  | some text => .parseInt text

/-- The message with another retry count, as it is emitted again. -/
def retryMessage (message : EventMessage) (retryCount : Number) : EventMessage :=
  { message with
    headers := some (("retry-count", retryCount.text) ::
      (message.headers.getD []).filter fun header => header.1 ≠ "retry-count") }

end EventMessage

/-- The kind of event, unless it is one nobody knows. -/
def ReceivedEvent.known (event : ReceivedEvent) : Option TransactionEventType :=
  [.CREATED, .STATUS_UPDATED, .CONFIRMED, .FAILED].find? fun eventType =>
    toString eventType = event.eventType

/-- How the handler of the event ends, the emit of a retry, and the emit to the
    dead letter queue. -/
structure Outcomes where
  handler : Except String Unit := .ok ()
  retryEmit : Except String Unit := .ok ()
  deadLetterEmit : Except String Unit := .ok ()

/-- What is sent to the topic of dead letters. -/
structure DeadLetter where
  originalMessage : EventMessage
  error : String
  retryCount : Number
  deriving DecidableEq

/-- What has been done about a message, and how the call ended. -/
structure Handled where
  handlerRan : Bool := false
  processed : Bool := false
  reemitted : Option EventMessage := none
  deadLettered : Option DeadLetter := none
  committed : Bool := false
  outcome : Except String Unit := .ok ()

/-- A failed emit is only logged. -/
def sendToDeadLetterQueue (originalMessage : EventMessage) (error : String) (retryCount : Number)
    (emit : Except String Unit) : Option DeadLetter :=
  match emit with
  | .ok () => some ⟨originalMessage, error, retryCount⟩
  | .error _ => none

/-- The handler has failed. -/
def handleFailure (message : EventMessage) (error : String) (outcomes : Outcomes) : Handled :=
  if message.retryCount.below MAX_RETRIES then
    match outcomes.retryEmit with
    | .ok () =>
      { handlerRan := true
        reemitted := some (message.retryMessage message.retryCount.addOne)
        committed := true }
    -- A retry that cannot be emitted leaves the offset uncommitted.
    | .error e => { handlerRan := true, outcome := .error e }
  else
    { handlerRan := true
      -- A dead letter that cannot be emitted is only logged.
      deadLettered := sendToDeadLetterQueue message error message.retryCount
        outcomes.deadLetterEmit
      committed := true }

/-- Handle a message: on failure repeat it, or give it up after some retries. -/
def handleTransactionEvent (message : EventMessage) (outcomes : Outcomes) : Handled :=
  match message.value with
  -- The log line of the handler raises this as well, so nothing else is done.
  | none => { outcome := .error "Cannot read properties of undefined (reading 'eventType')" }
  | some event =>
    match event.known, outcomes.handler with
    | none, _ => { processed := true, committed := true }
    | some _, .ok () => { handlerRan := true, processed := true, committed := true }
    | some _, .error error => handleFailure message error outcomes

/-! ### The topic -/

/-- A message of the topic: the offset its chain begins at, the offset of the
    message it repeats, and what has become of it. -/
structure Entry where
  message : EventMessage
  origin : Nat
  parent : Option Nat := none
  result : Option Handled := none

/-- The messages by their offsets. -/
abbrev Topic := List Entry

/-- What happens on the topic. -/
inductive TopicCall where
  | publish (message : EventMessage)
  | handle (offset : Nat) (outcomes : Outcomes)

/-- The entry, handled. -/
def Entry.handle (entry : Entry) (outcomes : Outcomes) : Entry :=
  { entry with result := some (handleTransactionEvent entry.message outcomes) }

/-- What handling the entry at an offset adds to the topic. -/
def Entry.repeats (entry : Entry) (offset : Nat) (outcomes : Outcomes) : List Entry :=
  match (handleTransactionEvent entry.message outcomes).reemitted with
  | some message => [{ message, origin := entry.origin, parent := some offset }]
  | none => []

/-- Somebody publishes a message, or a message that has not been handled yet is
    handled. -/
def advance (topic : Topic) : TopicCall → Unit × Topic
  | .publish message => ((), topic ++ [{ message, origin := topic.length }])
  | .handle offset outcomes =>
    match topic[offset]? with
    | some ⟨message, origin, parent, none⟩ =>
      ((), topic.set offset ((Entry.mk message origin parent none).handle outcomes) ++
        (Entry.mk message origin parent none).repeats offset outcomes)
    | _ => ((), topic)

/-- A step publishes a message, or handles one that has not been handled, or
    does nothing. -/
theorem advance_cases (topic : Topic) (call : TopicCall) :
    (∃ message, call = .publish message ∧
      (advance topic call).2 = topic ++ [{ message, origin := topic.length }]) ∨
    (∃ before entry after outcomes, call = .handle before.length outcomes ∧
      topic = before ++ entry :: after ∧ entry.result = none ∧
      (advance topic call).2 =
        before ++ entry.handle outcomes :: (after ++ entry.repeats before.length outcomes)) ∨
    (advance topic call).2 = topic ∧
      ∀ offset outcomes entry, call = .handle offset outcomes → topic[offset]? = some entry →
        entry.result ≠ none := by
  cases call with
  | publish message => exact Or.inl ⟨message, rfl, rfl⟩
  | handle offset outcomes =>
      right
      cases hget : topic[offset]? with
      | none =>
          right
          refine ⟨by simp only [advance, hget], ?_⟩
          rintro _ _ entry ⟨⟩ hsome
          exact nomatch hget.symm.trans hsome
      | some entry =>
          obtain ⟨message, origin, parent, result⟩ := entry
          cases result with
          | some r =>
              right
              refine ⟨by simp only [advance, hget], ?_⟩
              rintro _ _ entry ⟨⟩ hsome
              cases hget.symm.trans hsome
              exact Option.some_ne_none r
          | none =>
              left
              obtain ⟨hlt, hentry⟩ := List.getElem?_eq_some_iff.mp hget
              -- The message waits at this offset, between those before and those
              -- after it.
              have hsplit : topic = topic.take offset ++
                  ⟨message, origin, parent, none⟩ :: topic.drop (offset + 1) := by
                rw [← hentry, List.getElem_cons_drop, List.take_append_drop]
              have hlength : (topic.take offset).length = offset := by
                rw [List.length_take]
                omega
              have hset : ∀ entry : Entry, topic.set offset entry =
                  topic.take offset ++ entry :: topic.drop (offset + 1) := fun entry =>
                List.set_eq_take_append_cons_drop.trans (if_pos hlt)
              refine ⟨topic.take offset, ⟨message, origin, parent, none⟩, topic.drop (offset + 1),
                outcomes, by rw [hlength], hsplit, rfl, ?_⟩
              simp only [advance, hget, hset, hlength, List.append_assoc, List.cons_append]

end Transactions

end SvmCourse
