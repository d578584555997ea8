import Mathlib.Data.List.Nodup
import Mathlib.Data.Rat.Defs
import SvmCourse.Core.Machine
import SvmCourse.Core.Precedence

/-!
# The Message Publisher

Events about transactions are put into a buffer and taken out of it in
batches. Whoever fills the buffer flushes it, and so does a timer. A flush
takes the whole buffer at once and emits the events one after another, waiting
for every emit, so while it waits there may be further publications and
further flushes. An emit that fails puts the whole batch back in front of the
buffer.

The publisher is a machine. Its calls are the publications, the flushes
somebody else asks for, and what becomes of the emit a flush waits for. An
event is the object that was handed over, so two publications of equal events
are two events, and the number of the publication tells them apart. What has
been emitted, and what has ever been published, is recorded and looked at by
nobody.

## Main definitions

* `Transaction`, `TransactionEvent`: Rows and the events about them.
* `Flush`: A flush that waits for an emit.
* `Publisher`: The buffer and the flushes.
* `publishEvent`, `flushEvents`, `settle`: What the publisher does.
* `Call`, `step`: The publisher as a machine.
* `flushing`: Whose buffer a step flushes.
* `Publisher.places`: Where the events are.
* `Kept`: No event has been lost.
* `Numbered`: The events are numbered in the order of publication.

## Theorems

* `step_keeps`: What the four changes keep, a step keeps.
* `kept_step`: No step loses an event.
-/

namespace SvmCourse

namespace Transactions

open Core Machine

/-! ### Rows and events -/

/-- The statuses of a transaction. -/
inductive TransactionStatus where
  | PENDING | CONFIRMED | FAILED
  deriving DecidableEq, Repr

/-- The types of transactions. -/
inductive TransactionType where
  | TRANSFER | TOKEN_TRANSFER | PROGRAM_INTERACTION | ACCOUNT_CREATION
  deriving DecidableEq, Repr

/-- What stands under a name in the metadata. A name may be there without a
    value. -/
inductive Datum where
  | undefined
  | text (s : String)
  | number (q : ℚ)
  | flag (b : Bool)
  deriving DecidableEq

/-- Of two entries under one name the later one counts. -/
abbrev Metadata := List (String × Datum)

/-- The id is assigned by the database, in the order of insertion. -/
structure Transaction where
  id : Nat := 0
  signature : String
  type : TransactionType
  status : TransactionStatus := .PENDING
  fromAddress : Option String := none
  toAddress : Option String := none
  amount : ℚ := 0
  slot : Option ℚ := none
  blockTime : Option ℚ := none
  metadata : Metadata := []
  deriving DecidableEq

/-- The types of events. -/
inductive TransactionEventType where
  | CREATED | STATUS_UPDATED | CONFIRMED | FAILED
  deriving DecidableEq, Repr

instance : ToString TransactionEventType where
  toString
    | .CREATED => "transaction.created"
    | .STATUS_UPDATED => "transaction.status_updated"
    | .CONFIRMED => "transaction.confirmed"
    | .FAILED => "transaction.failed"

instance : ToString TransactionStatus where
  toString
    | .PENDING => "pending"
    | .CONFIRMED => "confirmed"
    | .FAILED => "failed"

/-- An event of a transaction. -/
structure TransactionEvent where
  eventType : TransactionEventType
  transactionId : Nat
  signature : String
  fromAddress : Option String
  toAddress : Option String
  amount : ℚ
  status : TransactionStatus
  type : TransactionType
  metadata : Metadata
  deriving DecidableEq

/-- The key is the signature of the transaction, for partitioning. -/
structure TransactionEventMessage where
  key : String
  value : TransactionEvent
  headers : List (String × String)
  deriving DecidableEq

/-- The event about a row, with what the kind of event adds to the metadata. -/
def Transaction.event (transaction : Transaction) (eventType : TransactionEventType)
    (added : Metadata) : TransactionEvent where
  eventType := eventType
  transactionId := transaction.id
  signature := transaction.signature
  fromAddress := transaction.fromAddress
  toAddress := transaction.toAddress
  amount := transaction.amount
  status := transaction.status
  type := transaction.type
  metadata := transaction.metadata ++ added

/-- A number, or undefined. -/
def Datum.ofOption : Option ℚ → Datum
  | some q => .number q
  | none => .undefined

/-- The event of a new transaction. -/
def transactionCreated (transaction : Transaction) : TransactionEvent :=
  transaction.event .CREATED []

/-- The event of a new status. -/
def transactionStatusUpdated (transaction : Transaction) (previousStatus : TransactionStatus) :
    TransactionEvent :=
  transaction.event .STATUS_UPDATED [("previousStatus", .text (toString previousStatus))]

/-- The event of a confirmation. -/
def transactionConfirmed (transaction : Transaction) : TransactionEvent :=
  transaction.event .CONFIRMED
    [("slot", .ofOption transaction.slot), ("blockTime", .ofOption transaction.blockTime)]

/-- The event of a failure. -/
def transactionFailed (transaction : Transaction) (error : String) : TransactionEvent :=
  transaction.event .FAILED [("error", .text error)]

/-- The message an event is wrapped in. Every event is published under the
    signature of its transaction. -/
def TransactionEvent.message (event : TransactionEvent) : TransactionEventMessage where
  key := event.signature
  value := event
  headers := [("event-type", toString event.eventType),
    ("transaction-id", toString event.transactionId)]

/-! ### The publisher -/

/-- A message that has been handed to the publisher, with the number of that
    publication. -/
structure Published where
  number : Nat
  message : TransactionEventMessage
  deriving DecidableEq

/-- A flush that waits for the emit of one event: what it has emitted, the
    event it waits for, and what comes after that. -/
structure Flush where
  sent : List Published
  emitting : Published
  waiting : List Published
  deriving DecidableEq

namespace Flush

/-- What a flush took out of the buffer. -/
def eventsToFlush (flush : Flush) : List Published := flush.sent ++ flush.emitting :: flush.waiting

/-- What the flush has not emitted yet. -/
def left (flush : Flush) : List Published := flush.emitting :: flush.waiting

/-- The flush once the event it waited for has been emitted, unless that was
    the last one. -/
def advance (flush : Flush) : Option Flush :=
  match flush.waiting with
  | [] => none
  | event :: events => some ⟨flush.sent ++ [flush.emitting], event, events⟩

end Flush

/-- The buffer, the flushes on their way, and what was emitted. -/
structure Publisher where
  eventBuffer : List Published := []
  flushes : List Flush := []
  emitted : List Published := []
  history : List Published := []
  deriving DecidableEq

/-- The size at which the buffer is flushed. -/
def maxBufferSize : Nat := 100

/-- What a call has come to, unless it has to wait. -/
abbrev Settled := Option (Except String Unit)

namespace Publisher

/-- Take the whole buffer and wait for the emit of its first event. -/
def flushEvents (s : Publisher) : Settled × Publisher :=
  match s.eventBuffer with
  | [] => (some (.ok ()), s)
  | event :: events =>
    (none, { s with eventBuffer := [], flushes := s.flushes ++ [⟨[], event, events⟩] })

/-- The event at the end of the buffer. -/
def push (s : Publisher) (message : TransactionEventMessage) : Publisher :=
  { s with
    eventBuffer := s.eventBuffer ++ [⟨s.history.length, message⟩]
    history := s.history ++ [⟨s.history.length, message⟩] }

/-- Put an event into the buffer, and flush it when it is full. -/
def publishEvent (s : Publisher) (message : TransactionEventMessage) : Settled × Publisher :=
  if maxBufferSize ≤ (s.push message).eventBuffer.length then (s.push message).flushEvents
  else (some (.ok ()), s.push message)

/-- The event a flush waits for has been emitted. -/
def emits (s : Publisher) (i : Nat) (flush : Flush) : Settled × Publisher :=
  match flush.advance with
  | some next =>
    (none, { s with emitted := s.emitted ++ [flush.emitting], flushes := s.flushes.set i next })
  | none =>
    (some (.ok ()),
      { s with emitted := s.emitted ++ [flush.emitting], flushes := s.flushes.eraseIdx i })

/-- The emit has failed, and the events of the flush go back to the front of
    the buffer. -/
def requeues (s : Publisher) (i : Nat) (flush : Flush) (error : String) : Settled × Publisher :=
  (some (.error error),
    { s with
      eventBuffer := flush.eventsToFlush ++ s.eventBuffer
      flushes := s.flushes.eraseIdx i })

/-- What becomes of the emit that flush number `i` waits for. -/
def settle (s : Publisher) (i : Nat) (outcome : Except String Unit) : Settled × Publisher :=
  match s.flushes[i]?, outcome with
  | none, _ => (none, s)
  | some flush, .ok () => s.emits i flush
  | some flush, .error error => s.requeues i flush error

end Publisher

/-- What happens to the publisher. -/
inductive Call where
  | publishEvent (message : TransactionEventMessage)
  | flushEvents
  | settle (i : Nat) (outcome : Except String Unit)

/-- One call on the publisher. -/
def step (s : Publisher) : Call → Settled × Publisher
  | .publishEvent message => s.publishEvent message
  | .flushEvents => s.flushEvents
  | .settle i outcome => s.settle i outcome

/-- The publisher whose buffer a step flushes, if it flushes one. -/
def flushing (s : Publisher) : Call → Option Publisher
  | .publishEvent message =>
    if maxBufferSize ≤ (s.push message).eventBuffer.length then some (s.push message) else none
  | .flushEvents => some s
  | .settle .. => none

/-! ### What a step can do -/

variable {s : Publisher} {call : Call} {I : Publisher → Prop}

/-- Where the flush of a settled emit stands among the others. -/
theorem settle_cases (s : Publisher) (i : Nat) (outcome : Except String Unit) :
    (s.settle i outcome).2 = s ∨
    ∃ before flush after, s.flushes = before ++ flush :: after ∧ i = before.length ∧
      (s.settle i outcome).2 = match outcome with
        | .ok () =>
          { s with
            emitted := s.emitted ++ [flush.emitting]
            flushes := before ++ (flush.advance.toList ++ after) }
        | .error _ =>
          { s with
            eventBuffer := flush.eventsToFlush ++ s.eventBuffer
            flushes := before ++ after } := by
  cases hget : s.flushes[i]? with
  | none =>
      left
      simp only [Publisher.settle, hget]
  | some flush =>
      right
      obtain ⟨hlt, hflush⟩ := List.getElem?_eq_some_iff.mp hget
      -- The flush goes on in its place, or leaves it when it is done or has failed.
      have hsplit : s.flushes = s.flushes.take i ++ flush :: s.flushes.drop (i + 1) := by
        rw [← hflush, List.getElem_cons_drop, List.take_append_drop]
      have hlength : i = (s.flushes.take i).length := by
        rw [List.length_take]
        omega
      have herase : s.flushes.eraseIdx i = s.flushes.take i ++ s.flushes.drop (i + 1) :=
        List.eraseIdx_eq_take_drop_succ ..
      refine ⟨s.flushes.take i, flush, s.flushes.drop (i + 1), hsplit, hlength, ?_⟩
      cases outcome with
      | error e =>
          simp only [Publisher.settle, hget, Publisher.requeues, herase]
      | ok u =>
          cases hnext : flush.advance with
          | none =>
              simp only [Publisher.settle, hget, Publisher.emits, hnext, herase,
                Option.toList_none, List.nil_append]
          | some next =>
              have hset : s.flushes.set i next =
                  s.flushes.take i ++ next :: s.flushes.drop (i + 1) :=
                List.set_eq_take_append_cons_drop.trans (if_pos hlt)
              simp only [Publisher.settle, hget, Publisher.emits, hnext, hset,
                Option.toList_some, List.singleton_append]

/-- What every publication, flush, emission and failure of a step keeps, the
    step keeps. -/
theorem step_keeps (hpush : ∀ message, I s → I (s.push message))
    (hflush : ∀ t, flushing s call = some t → I t → I t.flushEvents.2)
    (hemits : ∀ before flush after, s.flushes = before ++ flush :: after →
      call = .settle before.length (.ok ()) → I s →
      I { s with
          emitted := s.emitted ++ [flush.emitting]
          flushes := before ++ (flush.advance.toList ++ after) })
    (hrequeues : ∀ before flush after error, s.flushes = before ++ flush :: after →
      call = .settle before.length (.error error) → I s →
      I { s with
          eventBuffer := flush.eventsToFlush ++ s.eventBuffer
          flushes := before ++ after })
    (h : I s) : I (step s call).2 := by
  cases call with
  | publishEvent message =>
      have hpushed := hpush message h
      -- A publication flushes when the buffer is full.
      by_cases hfull : maxBufferSize ≤ (s.push message).eventBuffer.length
      · have hstep : step s (.publishEvent message) = (s.push message).flushEvents := if_pos hfull
        rw [hstep]
        exact hflush _ (if_pos hfull) hpushed
      · have hstep : step s (.publishEvent message) = (some (.ok ()), s.push message) :=
          if_neg hfull
        rw [hstep]
        exact hpushed
  | flushEvents => exact hflush s rfl h
  | settle i outcome =>
      have hstep : (step s (.settle i outcome)).2 = (s.settle i outcome).2 := rfl
      rw [hstep]
      -- There may be no such flush, and then nothing happens.
      rcases settle_cases s i outcome with hsame | ⟨before, flush, after, hflushes, rfl, hnew⟩
      · rw [hsame]
        exact h
      · rw [hnew]
        cases outcome with
        | ok u => exact hemits before flush after hflushes rfl h
        | error e => exact hrequeues before flush after e hflushes rfl h

/-! ### Nothing is lost -/

/-- Where the events are: in the buffer, still to be emitted by a flush, or
    emitted. -/
def Publisher.places (s : Publisher) : List Published :=
  s.eventBuffer ++ (s.flushes.flatMap Flush.left ++ s.emitted)

/-- What has been published is in the places and nothing else is, and what a
    flush says it has emitted has been emitted. -/
structure Kept (s : Publisher) : Prop where
  mem_places : ∀ event, event ∈ s.places ↔ event ∈ s.history
  sent : ∀ flush ∈ s.flushes, ∀ event ∈ flush.sent, event ∈ s.emitted

/-- What a flush has left is the event it waits for and what it has left
    afterwards. -/
theorem left_advance (flush : Flush) :
    flush.left = flush.emitting :: flush.advance.toList.flatMap Flush.left := by
  cases h : flush.waiting <;> simp [Flush.advance, Flush.left, h]

theorem sent_advance {flush next : Flush} (h : next ∈ flush.advance.toList) :
    next.sent = flush.sent ++ [flush.emitting] := by
  cases hwaiting : flush.waiting with
  | nil => simp [Flush.advance, hwaiting] at h
  | cons event events =>
      simp only [Flush.advance, hwaiting, Option.toList_some, List.mem_singleton] at h
      rw [h]

theorem kept_push (message : TransactionEventMessage) (h : Kept s) : Kept (s.push message) := by
  constructor
  · intro event
    have hold := h.mem_places event
    simp only [Publisher.places, List.mem_append] at hold
    simp only [Publisher.places, Publisher.push, List.mem_append, ← hold]
    grind only
  · exact h.sent

theorem kept_flushEvents (h : Kept s) : Kept s.flushEvents.2 := by
  cases hbuffer : s.eventBuffer with
  | nil =>
      simp only [Publisher.flushEvents, hbuffer]
      exact h
  | cons first events =>
      simp only [Publisher.flushEvents, hbuffer]
      constructor
      · -- The new flush has emitted nothing, so it has the whole buffer left.
        intro event
        have hold := h.mem_places event
        simp only [Publisher.places, hbuffer, List.mem_append] at hold
        simp only [Publisher.places, List.mem_append, List.flatMap_append, List.flatMap_singleton,
          Flush.left, List.not_mem_nil, false_or, ← hold]
        grind only
      · intro flush hflush event hevent
        rcases List.mem_append.mp hflush with hold | hnew
        · exact h.sent flush hold event hevent
        · rw [List.mem_singleton.mp hnew] at hevent
          exact absurd hevent List.not_mem_nil

theorem kept_emits {before after : List Flush} {flush : Flush}
    (hflushes : s.flushes = before ++ flush :: after) (h : Kept s) :
    Kept { s with
           emitted := s.emitted ++ [flush.emitting]
           flushes := before ++ (flush.advance.toList ++ after) } := by
  constructor
  · intro event
    have hold := h.mem_places event
    simp only [Publisher.places, hflushes, List.flatMap_append, List.flatMap_cons, List.mem_append,
      left_advance flush, List.mem_cons] at hold
    simp only [Publisher.places, List.flatMap_append, List.mem_append, List.mem_singleton, ← hold]
    grind only
  · intro other hother event hevent
    have hold : ∀ f ∈ s.flushes, event ∈ f.sent → event ∈ s.emitted ++ [flush.emitting] :=
      fun f hf he => List.mem_append_left _ (h.sent f hf event he)
    rw [hflushes] at hold
    simp only [List.mem_append] at hother
    rcases hother with hb | hadvanced | ha
    · exact hold other (by simp [hb]) hevent
    · -- The flush that goes on counts the event as emitted, and it is.
      rw [sent_advance hadvanced, List.mem_append] at hevent
      rcases hevent with hsent | hnow
      · exact hold flush (by simp) hsent
      · exact List.mem_append_right _ hnow
    · exact hold other (by simp [ha]) hevent

theorem kept_requeues {before after : List Flush} {flush : Flush}
    (hflushes : s.flushes = before ++ flush :: after) (h : Kept s) :
    Kept { s with
           eventBuffer := flush.eventsToFlush ++ s.eventBuffer
           flushes := before ++ after } := by
  constructor
  · -- What was to be emitted is at the front of the buffer again.
    intro event
    have hold := h.mem_places event
    have hsent : event ∈ flush.sent → event ∈ s.emitted := h.sent flush (by simp [hflushes]) event
    simp only [Publisher.places, hflushes, List.flatMap_append, List.flatMap_cons,
      List.mem_append, Flush.left] at hold
    simp only [Publisher.places, Flush.eventsToFlush, List.flatMap_append, List.mem_append, ← hold]
    grind only
  · intro other hother event hevent
    refine h.sent other ?_ event hevent
    rw [hflushes]
    rcases List.mem_append.mp hother with hb | ha
    · exact List.mem_append_left _ hb
    · exact List.mem_append_right _ (List.mem_cons_of_mem _ ha)

theorem kept_empty : Kept {} :=
  ⟨fun _ => Iff.rfl, fun _ h => absurd h List.not_mem_nil⟩

/-- No step loses an event, whatever becomes of the emits. -/
theorem kept_step (call : Call) (h : Kept s) : Kept (step s call).2 :=
  step_keeps kept_push (fun _ _ => kept_flushEvents)
    (fun _ _ _ hflushes _ => kept_emits hflushes)
    (fun _ _ _ _ hflushes _ => kept_requeues hflushes) h

/-! ### The order of publication -/

/-- The number of an event is its place in the history. -/
def Numbered (s : Publisher) : Prop :=
  s.history.map Published.number = List.range s.history.length

theorem Numbered.lt_length (h : Numbered s) {event : Published} (hevent : event ∈ s.history) :
    event.number < s.history.length := by
  have hmem : event.number ∈ s.history.map Published.number := List.mem_map_of_mem hevent
  rw [h, List.mem_range] at hmem
  exact hmem

theorem Numbered.nodup (h : Numbered s) : s.history.Nodup := by
  have hnumbers : (s.history.map Published.number).Nodup := h ▸ List.nodup_range
  exact List.Nodup.of_map Published.number hnumbers

theorem numbered_push (message : TransactionEventMessage) (h : Numbered s) :
    Numbered (s.push message) := by
  rw [Numbered] at h ⊢
  simp [Publisher.push, List.range_succ, h]

theorem numbered_flushEvents (h : Numbered s) : Numbered s.flushEvents.2 := by
  unfold Publisher.flushEvents
  split <;> exact h

end Transactions

end SvmCourse
