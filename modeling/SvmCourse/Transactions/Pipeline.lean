import SvmCourse.Transactions.Delivery
import SvmCourse.Transactions.Retries

/-!
# From the Publisher to the Consumer

What the publisher emits is what the consumer finds in the topic. So the two
are put together: the publisher makes its steps, every event it emits becomes
a message of the topic, and the consumer handles the messages in any order,
and those it has emitted again.

Where an event is can then be said from end to end. The publisher still has
it, or it was emitted and its message, or the last repetition of its message,
waits, was handled, is in the dead letter queue, or was left without its
offset being committed. The only event that is gone is one that the dead letter
queue did not take.

## Main definitions

* `TransactionEventMessage.wire`: A message as the consumer receives it.
* `System`: The publisher, the topic, and where the emitted events begin there.
* `Place`: What has become of an event.
* `System.whereabouts`: Every event with its place.
* `Carried`: The chain of an emitted event has one place.

## Theorems

* `carried_handle`: What was emitted has one place, and keeps having one.
* `whereabouts_after`: Where the events are after every run.
-/

namespace SvmCourse

namespace Transactions

open Core Machine

/-! ### The two together -/

/-- The message as the consumer receives it, with what the consumer looks at. -/
def TransactionEventMessage.wire (message : TransactionEventMessage) : EventMessage where
  key := message.key
  value := some ⟨toString message.value.eventType, toString message.value.transactionId⟩
  headers := some message.headers

namespace Pipeline

/-- The publisher and the topic, and for every event that was emitted the offset
    of its message, in the order of the emits. -/
structure System where
  publisher : Publisher := {}
  topic : Topic := []
  offsets : List Nat := []

/-- The topic has one message more. -/
def System.receive (system : System) (event : Published) : System where
  publisher := system.publisher
  topic := (advance system.topic (.publish event.message.wire)).2
  offsets := system.offsets ++ [system.topic.length]

/-- What happens at either end. -/
inductive SystemCall where
  | publisher (call : Call)
  | handle (offset : Nat) (outcomes : Outcomes)

/-- A step of the publisher, with what it emits, or of the consumer. -/
def run (system : System) : SystemCall → Unit × System
  | .publisher call =>
    let publisher := (step system.publisher call).2
    let emitted := publisher.emitted.drop system.publisher.emitted.length
    ((), emitted.foldl System.receive { system with publisher })
  | .handle offset outcomes =>
    ((), { system with topic := (advance system.topic (.handle offset outcomes)).2 })

/-! ### Where an event is -/

/-- What has become of an event. It was skipped if the consumer did not know what
    to do with it, and is gone if its offset was committed although nothing came
    of it. -/
inductive Place where
  | publisher | waiting | handled | deadLettered | uncommitted | skipped | gone
  deriving DecidableEq, Repr

/-- What a message has come to that was not emitted again. -/
def concluded (handled : Handled) : Place :=
  if handled.processed then if handled.handlerRan then .handled else .skipped
  else if handled.deadLettered.isSome then .deadLettered
  else if handled.committed then .gone
  else .uncommitted

/-- A message that was emitted again has no place of its own. -/
def place (entry : Entry) : Option Place :=
  match entry.result with
  | none => some .waiting
  | some handled => if handled.reemitted.isSome then none else some (concluded handled)

/-- The places of the messages in the chain that begins at an offset. -/
def places (topic : Topic) (offset : Nat) : List Place := (chain topic offset).filterMap place

/-- All places at which there is an event: with the publisher, or on the topic. -/
def System.whereabouts (system : System) : List (Published × Place) :=
  (system.publisher.eventBuffer ++ system.publisher.flushes.flatMap Flush.left).map
    (fun event => (event, .publisher)) ++
  (system.publisher.emitted.zip system.offsets).flatMap fun emitted =>
    (places system.topic emitted.2).map fun place => (emitted.1, place)

/-- The call does not emit to the dead letter queue in vain. -/
def SystemCall.Reaches : SystemCall → Prop
  | .publisher _ => True
  | .handle _ outcomes => outcomes.deadLetterEmit = .ok ()

/-- The call does not emit a message again in vain. -/
def SystemCall.Repeats : SystemCall → Prop
  | .publisher _ => True
  | .handle _ outcomes => outcomes.retryEmit = .ok ()

/-- An emit that fails is the first of its flush. -/
def SystemCall.FailsFirst (system : System) : SystemCall → Prop
  | .publisher call => Transactions.FailsFirst system.publisher call
  | .handle .. => True

/-! ### Handling a message of the publisher -/

section

variable {topic before after : Topic} {entry : Entry} {event : Published} {offset : Nat}
  {outcomes : Outcomes} {system : System}

/-- The consumer knows every kind of event there is. -/
theorem known_wire (message : TransactionEventMessage) :
    ∃ received, message.wire.value = some received ∧ received.known ≠ none := by
  refine ⟨_, rfl, Option.ne_none_iff_isSome.mpr (List.find?_isSome.mpr ?_)⟩
  refine ⟨message.value.eventType, ?_, decide_eq_true rfl⟩
  cases message.value.eventType <;> decide

/-- A message that was not emitted again was handled, or is in the dead letter
    queue, or an emit has failed. -/
theorem concluded_cases {message : EventMessage} {received : ReceivedEvent}
    (hvalue : message.value = some received) (hknown : received.known ≠ none)
    (hlast : (handleTransactionEvent message outcomes).reemitted = none) :
    concluded (handleTransactionEvent message outcomes) = .handled ∨
    concluded (handleTransactionEvent message outcomes) = .deadLettered ∨
    concluded (handleTransactionEvent message outcomes) = .uncommitted ∧
      outcomes.retryEmit ≠ .ok () ∨
    concluded (handleTransactionEvent message outcomes) = .gone ∧
      outcomes.deadLetterEmit ≠ .ok () := by
  cases hevent : received.known with
  | none => exact absurd hevent hknown
  | some eventType =>
      cases hhandler : outcomes.handler with
      | ok u => exact Or.inl (by simp [handleTransactionEvent, hvalue, hevent, hhandler, concluded])
      | error error =>
          have hhandled : handleTransactionEvent message outcomes =
              handleFailure message error outcomes := by
            simp only [handleTransactionEvent, hvalue, hevent, hhandler]
          rw [hhandled] at hlast ⊢
          unfold handleFailure at hlast ⊢
          -- The message is emitted again, or goes to the dead letter queue.
          split
          · next hbelow =>
              rw [if_pos hbelow] at hlast
              cases hemit : outcomes.retryEmit with
              | ok u =>
                  rw [hemit] at hlast
                  cases hlast
              | error e => exact Or.inr (Or.inr (Or.inl ⟨rfl, fun h => by cases h⟩))
          · cases hemit : outcomes.deadLetterEmit with
            | ok u => exact Or.inr (Or.inl rfl)
            | error e => exact Or.inr (Or.inr (Or.inr ⟨rfl, fun h => by cases h⟩))

/-! ### The chain of an event -/

/-- The chain of an event that was emitted has one place, and its messages are
    about the event. -/
structure Carried (topic : Topic) (event : Published) (offset : Nat) : Prop where
  lt : offset < topic.length
  one : (places topic offset).length = 1
  value : ∀ entry ∈ chain topic offset, entry.message.value = event.message.wire.value

/-- A message that is published begins a chain of its own. -/
theorem chain_publish (message : EventMessage) (h : offset < topic.length) :
    chain (topic ++ [{ message, origin := topic.length }]) offset = chain topic offset := by
  have hother : topic.length ≠ offset := Nat.ne_of_gt h
  rw [chain, List.filter_append, List.filter_cons_of_neg (by simpa using hother), List.filter_nil,
    List.append_nil, chain]

theorem chain_new (hsound : Sound topic) (message : EventMessage) :
    chain (topic ++ [{ message, origin := topic.length }]) topic.length =
      [{ message, origin := topic.length }] := by
  have hnone : chain topic topic.length = [] := by
    refine List.filter_eq_nil_iff.mpr fun entry hentry => ?_
    have hlt := hsound.origin_lt entry hentry
    simpa using Nat.ne_of_lt hlt
  have hone : chain [{ message, origin := topic.length }] topic.length =
      [{ message, origin := topic.length }] := List.filter_cons_of_pos (decide_eq_true rfl)
  rw [chain] at hnone hone
  rw [chain, List.filter_append, hnone, hone, List.nil_append]

theorem carried_publish (message : EventMessage) (h : Carried topic event offset) :
    Carried (topic ++ [{ message, origin := topic.length }]) event offset := by
  refine ⟨?_, ?_, ?_⟩
  · rw [List.length_append]
    exact Nat.lt_add_right _ h.lt
  · rw [places, chain_publish message h.lt]
    exact h.one
  · rw [chain_publish message h.lt]
    exact h.value

theorem carried_new (hsound : Sound topic) (event : Published) :
    Carried (topic ++ [{ message := event.message.wire, origin := topic.length }]) event
      topic.length := by
  refine ⟨?_, ?_, ?_⟩
  · rw [List.length_append]
    exact Nat.lt_succ_self _
  · rw [places, chain_new hsound]
    rfl
  · rw [chain_new hsound]
    rintro entry hentry
    rw [List.mem_singleton.mp hentry]

/-- A message that is handled and what is emitted again have one place together. -/
theorem places_handle (entry : Entry) (outcomes : Outcomes) (offset : Nat) :
    ((entry.handle outcomes :: entry.repeats offset outcomes).filterMap place).length = 1 := by
  cases hrepeated : (handleTransactionEvent entry.message outcomes).reemitted with
  | none => simp [Entry.repeats, Entry.handle, hrepeated, place]
  | some repeated => simp [Entry.repeats, Entry.handle, hrepeated, place]

theorem carried_handle (hwaiting : entry.result = none)
    (h : Carried (before ++ entry :: after) event offset) :
    Carried (before ++ entry.handle outcomes :: (after ++ entry.repeats before.length outcomes))
      event offset := by
  refine ⟨?_, ?_, ?_⟩
  · have hlt := h.lt
    simp only [List.length_append, List.length_cons] at hlt ⊢
    omega
  · have hone := h.one
    rw [places, chain_handle]
    split
    · next horigin =>
        have hhere : place entry = some .waiting := by rw [place, hwaiting]
        have hsplit : chain (before ++ entry :: after) offset =
            chain before offset ++ entry :: chain after offset := by
          simp [chain, List.filter_append, horigin]
        have hnew := places_handle entry outcomes before.length
        -- The place of the waiting message was the only one of the chain.
        rw [places, hsplit] at hone
        simp only [List.filterMap_append, List.filterMap_cons, hhere, List.length_append,
          List.length_cons] at hone
        have hnew := places_handle entry outcomes before.length
        have hbefore : (chain before offset).filterMap place = [] :=
          List.eq_nil_of_length_eq_zero (by omega)
        have hafter : (chain after offset).filterMap place = [] :=
          List.eq_nil_of_length_eq_zero (by omega)
        rw [List.filterMap_append, hbefore, List.nil_append]
        rw [List.filterMap_cons] at hnew ⊢
        rw [List.filterMap_append, hafter, List.nil_append]
        exact hnew
    · exact hone
  · have hold : ∀ e ∈ chain before offset ++ entry :: chain after offset,
        entry.origin = offset → e.message.value = event.message.wire.value := by
      intro e he horigin
      refine h.value e ?_
      simpa [chain, List.filter_append, horigin] using he
    rw [chain_handle]
    split
    · next horigin =>
        intro e he
        have hentry := hold entry (by simp) horigin
        simp only [List.mem_append, List.mem_cons] at he hold
        rcases he with hb | rfl | ha | hr
        · exact hold e (Or.inl hb) horigin
        · exact hentry
        · exact hold e (Or.inr (Or.inr ha)) horigin
        · rw [(reemitted_eq (mem_repeats hr).2.2.2).2]
          exact hentry
    · exact h.value

/-! ### The topic of the publisher -/

/-- The topic carries what was emitted, and the consumer knows all of it. -/
structure Linked (emitted : List Published) (system : System) : Prop where
  sound : Sound system.topic
  carried : List.Forall₂ (Carried system.topic) emitted system.offsets
  known : ∀ entry ∈ system.topic, ∃ received, entry.message.value = some received ∧
    received.known ≠ none

theorem linked_receive {emitted : List Published} (h : Linked emitted system) (event : Published) :
    Linked (emitted ++ [event]) (system.receive event) := by
  refine ⟨sound_publish _ h.sound, ?_, ?_⟩
  · refine List.rel_append (h.carried.imp fun _ _ hcarried => carried_publish _ hcarried) ?_
    exact .cons (carried_new h.sound event) .nil
  · intro entry hentry
    rcases List.mem_append.mp hentry with hold | hnew
    · exact h.known entry hold
    · rw [List.mem_singleton.mp hnew]
      exact known_wire event.message

theorem linked_receives {emitted : List Published} (events : List Published)
    (h : Linked emitted system) :
    Linked (emitted ++ events) (events.foldl System.receive system) := by
  induction events generalizing emitted system with
  | nil =>
      rw [List.append_nil]
      exact h
  | cons event events ih =>
      have hrest := ih (linked_receive h event)
      rw [List.append_assoc] at hrest
      exact hrest

theorem publisher_receives (events : List Published) (system : System) :
    (events.foldl System.receive system).publisher = system.publisher := by
  induction events generalizing system with
  | nil => rfl
  | cons event events ih => exact ih (system.receive event)

/-- What was emitted before still is. -/
theorem prefix_emitted (s : Publisher) (call : Call) : s.emitted <+: (step s call).2.emitted := by
  refine step_keeps (I := fun t => s.emitted <+: t.emitted) (fun _ h => h) ?_ ?_ ?_
    List.prefix_rfl
  · intro t _ h
    unfold Publisher.flushEvents
    split <;> exact h
  · intro before flush after _ _ _
    exact List.prefix_append ..
  · intro before flush after error _ _ h
    exact h

/-- A message is handled that has not been, or nothing happens. -/
theorem handle_cases (topic : Topic) (offset : Nat) (outcomes : Outcomes) :
    (∃ before entry after, topic = before ++ entry :: after ∧ entry.result = none ∧
      (advance topic (.handle offset outcomes)).2 =
        before ++ entry.handle outcomes :: (after ++ entry.repeats before.length outcomes)) ∨
    (advance topic (.handle offset outcomes)).2 = topic := by
  rcases advance_cases topic (.handle offset outcomes) with ⟨message, hcall, -⟩ |
    ⟨before, entry, after, outcomes', hcall, hsplit, hwaiting, hnew⟩ | ⟨hsame, -⟩
  · cases hcall
  · cases hcall
    exact Or.inl ⟨before, entry, after, hsplit, hwaiting, hnew⟩
  · exact Or.inr hsame

theorem linked_handle {emitted : List Published} (h : Linked emitted system) (offset : Nat)
    (outcomes : Outcomes) : Linked emitted
      { system with topic := (advance system.topic (.handle offset outcomes)).2 } := by
  rcases handle_cases system.topic offset outcomes with
    ⟨before, entry, after, hsplit, hwaiting, hnew⟩ | hsame
  · have hsound := h.sound
    have hcarried := h.carried
    have hknown := h.known
    rw [hsplit] at hsound hcarried hknown
    rw [hnew]
    refine ⟨sound_handle hwaiting hsound, hcarried.imp fun _ _ => carried_handle hwaiting, ?_⟩
    -- The entries are the old ones, the one that is handled, and its retry or dead
    -- letter.
    intro found hfound
    have hentry := hknown entry (by simp)
    rcases mem_handle hfound with hold | rfl | hrepeats
    · exact hknown found hold
    · exact hentry
    · rw [(reemitted_eq (mem_repeats hrepeats).2.2.2).2]
      exact hentry
  · rw [hsame]
    exact h

/-- Every step leaves the topic with what has been emitted. -/
theorem linked_run (call : SystemCall) (h : Linked system.publisher.emitted system) :
    Linked (run system call).2.publisher.emitted (run system call).2 ∧
      ((run system call).2.publisher = system.publisher ∨
        ∃ call', call = .publisher call' ∧
          (run system call).2.publisher = (step system.publisher call').2) := by
  cases call with
  | publisher call =>
      -- What the step emits is appended to what was emitted, and received in this
      -- order.
      have hbegins := List.prefix_iff_eq_append.mp (prefix_emitted system.publisher call)
      have hstart : Linked system.publisher.emitted
          { system with publisher := (step system.publisher call).2 } :=
        ⟨h.sound, h.carried, h.known⟩
      have hlater := linked_receives
        ((step system.publisher call).2.emitted.drop system.publisher.emitted.length) hstart
      rw [hbegins] at hlater
      have hpublisher := publisher_receives
        ((step system.publisher call).2.emitted.drop system.publisher.emitted.length)
        { system with publisher := (step system.publisher call).2 }
      refine ⟨?_, Or.inr ⟨call, rfl, hpublisher⟩⟩
      rw [run]
      dsimp only
      rw [hpublisher]
      exact hlater
  | handle offset outcomes => exact ⟨linked_handle h offset outcomes, Or.inl rfl⟩

/-! ### Places -/

/-- No message of the topic has come to this. -/
def Free (found : Place) (topic : Topic) : Prop := ∀ entry ∈ topic, place entry ≠ some found

theorem free_receives {found : Place} (hwaiting : found ≠ .waiting) (events : List Published)
    (h : Free found system.topic) : Free found (events.foldl System.receive system).topic := by
  induction events generalizing system with
  | nil => exact h
  | cons event events ih =>
      refine @ih (system.receive event) fun entry hentry hplace => ?_
      rcases List.mem_append.mp hentry with hold | hnew
      · exact h entry hold hplace
      · rw [List.mem_singleton.mp hnew] at hplace
        exact hwaiting (Option.some.inj hplace).symm

/-- Handling a message skips nothing, and leaves a message uncommitted or lets it
    go only when an emit fails. -/
theorem free_handle {found : Place} (hwaiting : found ≠ .waiting)
    (hknown : ∀ entry ∈ topic, ∃ received, entry.message.value = some received ∧
      received.known ≠ none)
    (hfound : found = .skipped ∨ found = .gone ∧ outcomes.deadLetterEmit = .ok () ∨
      found = .uncommitted ∧ outcomes.retryEmit = .ok ())
    (h : Free found topic) (offset : Nat) :
    Free found (advance topic (.handle offset outcomes)).2 := by
  rcases handle_cases topic offset outcomes with
    ⟨before, entry, after, rfl, -, hnew⟩ | hsame
  · rw [hnew]
    intro other hother hplace
    rcases mem_handle hother with hold | rfl | hrepeats
    · exact h other hold hplace
    · rcases hknown entry (by simp) with ⟨received, hvalue, hkind⟩
      rw [place, Entry.handle] at hplace
      dsimp only at hplace
      split at hplace
      · cases hplace
      · next hlast =>
          cases hplace
          rw [Bool.not_eq_true, Option.isSome_eq_false_iff, Option.isNone_iff_eq_none] at hlast
          -- The place is one of a message that an emit has failed for.
          rcases concluded_cases hvalue hkind hlast with hdone | hdead | ⟨hleft, hemit⟩ |
            ⟨hgone, hemit⟩
          all_goals grind
    · rw [place, (mem_repeats hrepeats).2.2.1] at hplace
      exact hwaiting (Option.some.inj hplace).symm
  · rw [hsame]
    exact h

/-- Every event of the publisher and every event that was emitted has its place. -/
theorem fst_whereabouts (h : Linked system.publisher.emitted system) :
    system.whereabouts.map Prod.fst = system.publisher.places := by
  -- The chain of an offset has one place, which is counted for the event emitted
  -- there.
  have hpairs : ∀ (emitted : List Published) (offsets : List Nat),
      List.Forall₂ (Carried system.topic) emitted offsets →
      ((emitted.zip offsets).flatMap fun emitted =>
        (places system.topic emitted.2).map fun place => (emitted.1, place)).map Prod.fst =
        emitted := by
    intro emitted offsets hcarried
    induction hcarried with
    | nil => rfl
    | cons hone _ ih =>
        rcases List.length_eq_one_iff.mp hone.one with ⟨found, hplaces⟩
        simp only [List.zip_cons_cons, List.flatMap_cons, hplaces, List.map_cons, List.map_nil,
          ih, List.singleton_append]
  rw [System.whereabouts, List.map_append, hpairs _ _ h.carried, List.map_map, Publisher.places,
    ← List.append_assoc]
  congr 1
  exact List.map_id _

/-- An event is in a place where a message of the topic is, unless the publisher
    still has it. -/
theorem place_of_whereabouts {found : Published × Place} (h : found ∈ system.whereabouts) :
    found.2 = .publisher ∨ ∃ entry ∈ system.topic, place entry = some found.2 := by
  rcases List.mem_append.mp h with hpublisher | htopic
  · rcases List.mem_map.mp hpublisher with ⟨event, -, rfl⟩
    exact Or.inl rfl
  · rcases List.mem_flatMap.mp htopic with ⟨emitted, -, hmem⟩
    rcases List.mem_map.mp hmem with ⟨found, hplace, rfl⟩
    rcases List.mem_filterMap.mp hplace with ⟨entry, hentry, hplace⟩
    exact Or.inr ⟨entry, (List.mem_filter.mp hentry).1, hplace⟩

end

/-! ### Runs -/

variable {system : System}

/-- What is on the topic was emitted, and what was published is somewhere. -/
structure Whole (system : System) : Prop where
  linked : Linked system.publisher.emitted system
  kept : Kept system.publisher

theorem whole_empty : Whole {} :=
  ⟨⟨sound_nil, .nil, fun _ h => (List.not_mem_nil h).elim⟩, kept_empty⟩

theorem whole_run (call : SystemCall) (h : Whole system) : Whole (run system call).2 := by
  rcases linked_run call h.linked with ⟨hlinked, hsame | ⟨call', -, hstep⟩⟩
  · exact ⟨hlinked, hsame ▸ h.kept⟩
  · exact ⟨hlinked, hstep ▸ kept_step call' h.kept⟩

/-- The step does not bring a message there. -/
def Avoids (found : Place) (call : SystemCall) : Prop :=
  found = .skipped ∨ found = .gone ∧ call.Reaches ∨ found = .uncommitted ∧ call.Repeats

theorem free_run {found : Place} (hwaiting : found ≠ .waiting) {call : SystemCall}
    (hcall : Avoids found call) (h : Whole system) (hfree : Free found system.topic) :
    Free found (run system call).2.topic := by
  cases call with
  | publisher call => exact free_receives hwaiting _ hfree
  | handle offset outcomes => exact free_handle hwaiting h.linked.known hcall hfree offset

theorem free_after {found : Place} {calls : List SystemCall} (hwaiting : found ≠ .waiting)
    (hcalls : Along run (fun call _ _ _ => Avoids found call) calls {}) :
    Free found (after run calls {}).topic := by
  have hstart : Whole {} ∧ Free found ([] : Topic) :=
    ⟨whole_empty, fun _ h => (List.not_mem_nil h).elim⟩
  refine (after_invariant (I := fun system => Whole system ∧ Free found system.topic)
    (P := fun call _ => Avoids found call) ?_ hstart hcalls).2
  rintro call system hcall ⟨hwhole, hfree⟩
  exact ⟨whole_run call hwhole, free_run hwaiting hcall hwhole hfree⟩

/-- Nothing has come to a place that the steps avoid. -/
theorem avoided {found : Published × Place} {calls : List SystemCall}
    (hfound : found ∈ (after run calls {}).whereabouts) (hpublisher : found.2 ≠ .publisher)
    (hwaiting : found.2 ≠ .waiting) :
    ¬Along run (fun call _ _ _ => Avoids found.2 call) calls {} := by
  intro hcalls
  rcases place_of_whereabouts hfound with hthere | ⟨entry, hentry, hplace⟩
  · exact hpublisher hthere
  · exact free_after hwaiting hcalls entry hentry hplace

theorem placed_run {call : SystemCall} (hfirst : call.FailsFirst system) (hlinked : Whole system)
    (h : Placed system.publisher) : Placed (run system call).2.publisher := by
  rcases linked_run call hlinked.linked with ⟨-, hsame | ⟨call', rfl, hstep⟩⟩
  · rw [hsame]
    exact h
  · rw [hstep]
    exact placed_step hfirst h

end Pipeline

end Transactions

end SvmCourse
