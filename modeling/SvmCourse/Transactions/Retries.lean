import Mathlib.Data.List.Basic
import SvmCourse.Transactions.Consumer

/-!
# Retries and the Dead Letter Queue

The offset of a message is committed when the message has been processed, or
is in the topic once more with its retry count increased, or is in the dead
letter queue. Two things break this. An emit to the dead letter queue that
fails is forgotten and the offset is committed. And a retry count so far below
zero that there is no next number is emitted again unchanged.

A message published without a retry count is handled four times at most, along
with its repetitions. The messages of its chain have the retry counts zero, one,
two and three, in that order, and only the last of them may be waiting.

## Main definitions

* `Dropped`: The message is given up although its offset is committed.
* `AllAccounted`: What has been committed is accounted for.
* `Bounded`: No chain runs its handler too often.
* `Chained`: A chain whose last message may be waiting.

## Theorems

* `oneMore_iff`: When a repeated message counts one more.
* `accounted_iff_not_dropped`: When handling a message accounts for it.
* `settled_iff`: When every commit of a run is accounted for.
-/

namespace SvmCourse

namespace Transactions

open Core Machine Number

variable {message : EventMessage} {outcomes : Outcomes} {topic before after more : Topic}
  {entry : Entry}

/-! ### Counting retries -/

/-- The repeated message says that it has been retried once more. -/
def OneMore (message repeated : EventMessage) : Prop :=
  ∃ n, message.retryCount = .int n ∧ repeated.retryCount = .int (n + 1)

/-- There is no number one more than this one. -/
def NoNext (x : Number) : Prop :=
  x = .negInfinity ∨ ∃ n < -(maxExact : Int), x = .int n

/-- A retry count is small or even, as every number is. -/
theorem small_or_even_retryCount {n : Int} (h : message.retryCount = .int n) :
    n.natAbs ≤ maxExact ∨ 2 ∣ n := by
  unfold EventMessage.retryCount at h
  split at h
  · cases h
    exact Or.inl (Nat.zero_le _)
  · cases h
    exact Or.inl (Nat.zero_le _)
  · exact small_or_even_of_parseInt h

theorem retryCount_retryMessage (message : EventMessage) {n : Int} (h : n.natAbs ≤ maxExact) :
    (message.retryMessage (.int n)).retryCount = .int n := by
  have hparse := parseInt_text h
  have hheader : (message.retryMessage (.int n)).header "retry-count" = some (text (.int n)) := rfl
  unfold EventMessage.retryCount
  rw [hheader]
  split
  · next heq => exact nomatch heq
  · next heq =>
      -- The empty text is not a number.
      rw [Option.some.inj heq] at hparse
      exact nomatch hparse
  · next heq =>
      rw [← Option.some.inj heq]
      exact hparse

/-- A message that is retried counts one more unless its count has no next. -/
theorem oneMore_iff (hbelow : message.retryCount.below MAX_RETRIES = true) :
    OneMore message (message.retryMessage message.retryCount.addOne) ↔
      ¬ NoNext message.retryCount := by
  cases hcount : message.retryCount with
  | NaN =>
      rw [hcount] at hbelow
      exact nomatch hbelow
  | posInfinity =>
      rw [hcount] at hbelow
      exact nomatch hbelow
  | negInfinity =>
      refine iff_of_false ?_ (not_not_intro (Or.inl rfl))
      rintro ⟨n, hn, -⟩
      exact nomatch hcount.symm.trans hn
  | int n =>
      have hlt : n < 3 := by
        rw [hcount] at hbelow
        exact of_decide_eq_true hbelow
      have hmax : (maxExact : Int) = 9007199254740992 := by decide
      by_cases hnext : n < -(maxExact : Int)
      · refine iff_of_false ?_ (not_not_intro (Or.inr ⟨n, hnext, rfl⟩))
        rintro ⟨m, hm, hrepeated⟩
        cases hcount.symm.trans hm
        -- The count is even, so the next integer is neither small nor even.
        have heven := small_or_even_retryCount hcount
        have hodd := small_or_even_retryCount hrepeated
        omega
      · have hsmall : (n + 1).natAbs ≤ maxExact := by omega
        refine iff_of_true ⟨n, hcount, ?_⟩ ?_
        · rw [addOne, ofInt_of_small hsmall, retryCount_retryMessage message hsmall]
        · rintro (hinfinite | ⟨m, hm, heq⟩)
          · exact nomatch hinfinite
          · cases heq
            exact hnext hm

/-! ### One message -/

/-- The handler of the event fails, and either the message has been retried
    often enough and the dead letter queue does not take it, or it is emitted
    again although its count cannot be increased. -/
def Dropped (message : EventMessage) (outcomes : Outcomes) : Prop :=
  (∃ event ∈ message.value, event.known ≠ none) ∧ (∃ error, outcomes.handler = .error error) ∧
    if message.retryCount.below MAX_RETRIES then
      outcomes.retryEmit = .ok () ∧ NoNext message.retryCount
    else ∃ error, outcomes.deadLetterEmit = .error error

/-- If the offset is committed, the message is processed, or emitted again with
    its count increased, or in the dead letter queue. -/
def Accounted (message : EventMessage) (handled : Handled) : Prop :=
  handled.committed = true → handled.processed = true ∨
    (∃ repeated ∈ handled.reemitted, OneMore message repeated) ∨ handled.deadLettered ≠ none

theorem accounted_failure (message : EventMessage) (error : String) (outcomes : Outcomes) :
    Accounted message (handleFailure message error outcomes) ↔
      ¬ if message.retryCount.below MAX_RETRIES then
          outcomes.retryEmit = .ok () ∧ NoNext message.retryCount
        else ∃ error, outcomes.deadLetterEmit = .error error := by
  by_cases hbelow : message.retryCount.below MAX_RETRIES = true
  · have hone := oneMore_iff hbelow
    cases hemit : outcomes.retryEmit with
    | ok u => simp [Accounted, handleFailure, hbelow, hemit, hone]
    | error e => simp [Accounted, handleFailure, hbelow, hemit]
  · cases hemit : outcomes.deadLetterEmit with
    | ok u => simp [Accounted, handleFailure, hbelow, sendToDeadLetterQueue, hemit]
    | error e => simp [Accounted, handleFailure, hbelow, sendToDeadLetterQueue, hemit]

/-- Handling a message accounts for it unless it is dropped. -/
theorem accounted_iff_not_dropped (message : EventMessage) (outcomes : Outcomes) :
    Accounted message (handleTransactionEvent message outcomes) ↔ ¬ Dropped message outcomes := by
  cases hvalue : message.value with
  | none => simp [Accounted, handleTransactionEvent, Dropped, hvalue]
  | some event =>
      cases hknown : event.known with
      | none => simp [Accounted, handleTransactionEvent, Dropped, hvalue, hknown]
      | some eventType =>
          -- What is handled is accounted for, so the failures decide.
          cases hhandler : outcomes.handler with
          | ok u => simp [Accounted, handleTransactionEvent, Dropped, hvalue, hknown, hhandler]
          | error error =>
              have hhandled : handleTransactionEvent message outcomes =
                  handleFailure message error outcomes := by
                simp only [handleTransactionEvent, hvalue, hknown, hhandler]
              rw [hhandled, accounted_failure]
              simp [Dropped, hvalue, hknown, hhandler]

/-- A message that is emitted again has a retry count below the limit, and is
    emitted with the next one. -/
theorem reemitted_eq {repeated : EventMessage}
    (h : (handleTransactionEvent message outcomes).reemitted = some repeated) :
    message.retryCount.below MAX_RETRIES = true ∧
      repeated = message.retryMessage message.retryCount.addOne := by
  unfold handleTransactionEvent at h
  -- Only a failure below the limit is emitted again.
  split at h
  · exact nomatch h
  · split at h
    · exact nomatch h
    · exact nomatch h
    · unfold handleFailure at h
      split at h
      · next hbelow =>
          split at h
          · exact ⟨hbelow, (Option.some.inj h).symm⟩
          · exact nomatch h
      · exact nomatch h

/-! ### The topic -/

/-- Whatever has been committed is processed, or in the topic once more with
    its count increased, or in the dead letter queue. -/
def AllAccounted (topic : Topic) : Prop :=
  ∀ offset entry handled, topic[offset]? = some entry → entry.result = some handled →
    handled.committed = true → handled.processed = true ∨
      (∃ repeated ∈ topic, repeated.parent = some offset ∧
        OneMore entry.message repeated.message) ∨ handled.deadLettered ≠ none

/-- How often the handler has run for the messages of a chain. -/
def handlerRuns (topic : Topic) (origin : Nat) : Nat :=
  topic.countP fun entry => entry.origin = origin && entry.result.any Handled.handlerRan

/-- Somebody published the message at this offset without a retry count. -/
def Fresh (topic : Topic) (offset : Nat) : Prop :=
  ∃ entry, topic[offset]? = some entry ∧ entry.parent = none ∧
    entry.message.header "retry-count" = none

/-- The handler runs at most four times for a message and its repetitions. -/
def Bounded (topic : Topic) : Prop :=
  ∀ offset, Fresh topic offset → (handlerRuns topic offset : Int) ≤ MAX_RETRIES + 1

/-- The step drops a message. -/
def Drops (topic : Topic) : TopicCall → Prop
  | .publish _ => False
  | .handle offset outcomes =>
    ∃ entry, topic[offset]? = some entry ∧ entry.result = none ∧ Dropped entry.message outcomes

/-! ### Chains -/

/-- Only the last message of a chain may be waiting, and its retry count is the
    number of messages before it. -/
structure Chained (chain : Topic) : Prop where
  handled : ∀ entry ∈ chain.dropLast, entry.result ≠ none
  waiting : ∀ entry ∈ chain.getLast?, entry.result = none →
    entry.message.retryCount = .int (chain.length - 1)
  length_le : chain.length ≤ 4

/-- The repeats of a message, itself included. -/
def chain (topic : Topic) (origin : Nat) : Topic := topic.filter fun entry => entry.origin = origin

theorem chained_singleton (hfresh : message.header "retry-count" = none) (origin : Nat) :
    Chained [{ message, origin }] := by
  refine ⟨fun _ h => absurd h List.not_mem_nil, ?_, by simp⟩
  rintro entry ⟨⟩ _
  simp [EventMessage.retryCount, hfresh]

/-- Handling the waiting message of a chain leaves a chain, with what it adds. -/
theorem chained_handle (hwaiting : entry.result = none)
    (h : Chained (before ++ entry :: after)) (offset : Nat) :
    after = [] ∧ Chained (before ++ entry.handle outcomes :: entry.repeats offset outcomes) := by
  have hlast : after = [] := by
    by_contra hne
    refine h.handled entry ?_ hwaiting
    rw [List.dropLast_append_cons, List.dropLast_cons_of_ne_nil hne]
    exact List.mem_append_right _ (List.mem_cons_self ..)
  subst hlast
  refine ⟨rfl, ?_⟩
  have hbefore : ∀ e ∈ before, e.result ≠ none := by simpa using h.handled
  have hcount : entry.message.retryCount = .int before.length := by
    simpa using h.waiting entry (by simp) hwaiting
  have hhandled : (entry.handle outcomes).result ≠ none := Option.some_ne_none _
  have hlength : before.length + 1 ≤ 4 := by simpa using h.length_le
  cases hrepeated : (handleTransactionEvent entry.message outcomes).reemitted with
  | none =>
      have hrepeats : entry.repeats offset outcomes = [] := by
        simp only [Entry.repeats, hrepeated]
      rw [hrepeats]
      refine ⟨by simpa using hbefore, ?_, by simpa using hlength⟩
      intro e he hnone
      simp only [List.getLast?_append, List.getLast?_singleton, Option.some_or,
        Option.mem_some_iff] at he
      exact absurd (he ▸ hnone) hhandled
  | some repeated =>
      have hrepeats : entry.repeats offset outcomes =
          [{ message := repeated, origin := entry.origin, parent := some offset }] := by
        simp only [Entry.repeats, hrepeated]
      obtain ⟨hbelow, rfl⟩ := reemitted_eq hrepeated
      -- The message was retried fewer than three times, so the chain has room for one more.
      have hroom : before.length < 3 := by
        rw [hcount] at hbelow
        have hlt : (before.length : Int) < 3 := of_decide_eq_true hbelow
        omega
      have hexact : ((before.length : Int) + 1).natAbs ≤ maxExact := by
        have hmax : maxExact = 9007199254740992 := by decide
        omega
      have hnext : (entry.message.retryMessage entry.message.retryCount.addOne).retryCount =
          .int (before.length + 1) := by
        rw [hcount, addOne, ofInt_of_small hexact, retryCount_retryMessage _ hexact]
      rw [hrepeats]
      constructor
      · intro e he
        have hmem : e ∈ before ∨ e = entry.handle outcomes := by simpa using he
        rcases hmem with hmem | rfl
        · exact hbefore e hmem
        · exact hhandled
      · intro e he _
        simp only [List.getLast?_append, List.getLast?_cons_cons, List.getLast?_singleton,
          Option.some_or, Option.mem_some_iff] at he
        rw [← he, hnext, Number.int.injEq]
        simp only [List.length_append, List.length_cons, List.length_nil]
        omega
      · simp only [List.length_append, List.length_cons, List.length_nil]
        omega

/-! ### What every topic is like -/

/-- Where the entries of a topic come from. -/
structure Sound (topic : Topic) : Prop where
  origin_lt : ∀ entry ∈ topic, entry.origin < topic.length
  /-- Only a message that has been handled is repeated. -/
  parent_handled : ∀ entry ∈ topic, ∀ offset ∈ entry.parent,
    ∃ handled, topic[offset]? = some handled ∧ handled.result ≠ none
  chained : ∀ offset, Fresh topic offset → Chained (chain topic offset)

theorem sound_nil : Sound [] :=
  ⟨fun _ h => absurd h List.not_mem_nil, fun _ h => absurd h List.not_mem_nil,
    fun _ ⟨_, h, _⟩ => nomatch h⟩

theorem bounded_of_sound (h : Sound topic) : Bounded topic := by
  intro offset hfresh
  have hle : handlerRuns topic offset ≤ (chain topic offset).length := by
    rw [handlerRuns, chain, ← List.countP_eq_length_filter]
    refine List.countP_mono_left fun entry _ hentry => ?_
    simp only [Bool.and_eq_true, decide_eq_true_eq] at hentry ⊢
    exact hentry.1
  have hlength := (h.chained offset hfresh).length_le
  rw [MAX_RETRIES]
  omega

theorem sound_publish (message : EventMessage) (h : Sound topic) :
    Sound (topic ++ [{ message, origin := topic.length }]) := by
  constructor
  · intro entry hentry
    rw [List.length_append, List.length_singleton]
    rcases List.mem_append.mp hentry with hold | hnew
    · exact Nat.lt_succ_of_lt (h.origin_lt entry hold)
    · rw [List.mem_singleton.mp hnew]
      exact Nat.lt_succ_self _
  · intro entry hentry offset hoffset
    rcases List.mem_append.mp hentry with hold | hnew
    · obtain ⟨handled, hget, hresult⟩ := h.parent_handled entry hold offset hoffset
      have hlt := (List.getElem?_eq_some_iff.mp hget).1
      exact ⟨handled, by rw [List.getElem?_append_left hlt, hget], hresult⟩
    · rw [List.mem_singleton.mp hnew] at hoffset
      exact nomatch hoffset
  · rintro offset ⟨entry, hget, hparent, hheader⟩
    rw [chain, List.filter_append]
    by_cases hold : offset < topic.length
    · rw [List.getElem?_append_left hold] at hget
      have hother : topic.length ≠ offset := by omega
      have hnone : [{ message, origin := topic.length : Entry }].filter
          (fun entry => entry.origin = offset) = [] := by simp [hother]
      rw [hnone, List.append_nil]
      exact h.chained offset ⟨entry, hget, hparent, hheader⟩
    · -- The message that begins here is the only one of its chain.
      have hlt := (List.getElem?_eq_some_iff.mp hget).1
      have heq : offset = topic.length := by
        rw [List.length_append, List.length_singleton] at hlt
        omega
      subst heq
      rw [List.getElem?_concat_length, Option.some.injEq] at hget
      have hnone : topic.filter (fun entry => entry.origin = topic.length) = [] := by
        refine List.filter_eq_nil_iff.mpr fun e he => ?_
        have hne := Nat.ne_of_lt (h.origin_lt e he)
        simp [hne]
      have hone : [{ message, origin := topic.length : Entry }].filter
          (fun entry => entry.origin = topic.length) =
          [{ message, origin := topic.length }] := by simp
      rw [hnone, hone, List.nil_append]
      rw [← hget] at hheader
      exact chained_singleton hheader _

/-- Handling a message changes the topic at its offset and behind the end. -/
theorem getElem?_handle (before after more : Topic) (entry changed : Entry) (offset : Nat) :
    (before ++ changed :: (after ++ more))[offset]? =
      if offset = before.length then some changed
      else ((before ++ entry :: after) ++ more)[offset]? := by
  have hset : before ++ changed :: (after ++ more) =
      ((before ++ entry :: after) ++ more).set before.length changed := by simp
  rw [hset, List.getElem?_set]
  by_cases h : offset = before.length
  · simp [h]
  · simp [h, Ne.symm h]

/-- Where an entry of the topic is once a message has been handled. -/
theorem found_handle {offset : Nat} {found : Entry}
    (h : (before ++ entry.handle outcomes :: (after ++ more))[offset]? = some found) :
    (before ++ entry :: after)[offset]? = some found ∨
      offset = before.length ∧ found = entry.handle outcomes ∨ found ∈ more := by
  rw [getElem?_handle before after more entry] at h
  by_cases hhere : offset = before.length
  · rw [if_pos hhere, Option.some.injEq] at h
    exact Or.inr (Or.inl ⟨hhere, h.symm⟩)
  · rw [if_neg hhere] at h
    by_cases hold : offset < (before ++ entry :: after).length
    · rw [List.getElem?_append_left hold] at h
      exact Or.inl h
    · rw [List.getElem?_append_right (Nat.le_of_not_lt hold)] at h
      exact Or.inr (Or.inr (List.mem_of_getElem? h))

/-- What was handled before still is. -/
theorem kept_handle {offset : Nat} {found : Entry} (hwaiting : entry.result = none)
    (h : (before ++ entry :: after)[offset]? = some found) (hfound : found.result ≠ none) :
    (before ++ entry.handle outcomes :: (after ++ more))[offset]? = some found := by
  have hlt := (List.getElem?_eq_some_iff.mp h).1
  have hne : offset ≠ before.length := by
    rintro rfl
    simp only [List.getElem?_append_right, Nat.le_refl, Nat.sub_self, List.getElem?_cons_zero,
      Option.some.injEq] at h
    rw [← h] at hfound
    exact hfound hwaiting
  rw [getElem?_handle before after more entry, if_neg hne, List.getElem?_append_left hlt, h]

/-- What an entry of the topic is once a message has been handled. -/
theorem mem_handle {found : Entry}
    (h : found ∈ before ++ entry.handle outcomes :: (after ++ more)) :
    found ∈ before ++ entry :: after ∨ found = entry.handle outcomes ∨ found ∈ more := by
  simp only [List.mem_append, List.mem_cons] at h ⊢
  grind only

theorem mem_repeats {found : Entry} {offset : Nat} (h : found ∈ entry.repeats offset outcomes) :
    found.origin = entry.origin ∧ found.parent = some offset ∧ found.result = none ∧
      (handleTransactionEvent entry.message outcomes).reemitted = some found.message := by
  unfold Entry.repeats at h
  split at h
  · next repeated hrepeated =>
      rw [List.mem_singleton.mp h]
      exact ⟨rfl, rfl, rfl, hrepeated⟩
  · exact absurd h List.not_mem_nil

/-- The chains after a message has been handled. -/
theorem chain_handle (offset : Nat) :
    chain (before ++ entry.handle outcomes :: (after ++ entry.repeats before.length outcomes))
        offset =
      if entry.origin = offset then
        chain before offset ++ entry.handle outcomes ::
          (chain after offset ++ entry.repeats before.length outcomes)
      else chain (before ++ entry :: after) offset := by
  have hhandle : (entry.handle outcomes).origin = entry.origin := rfl
  -- What a handled message leaves behind has the origin of the message.
  by_cases h : entry.origin = offset
  · have hrepeats : (entry.repeats before.length outcomes).filter
        (fun e => e.origin = offset) = entry.repeats before.length outcomes := by
      rw [List.filter_eq_self]
      intro e he
      simp [(mem_repeats he).1, h]
    simp only [chain, List.filter_append, List.filter_cons, hhandle, h, decide_true, if_true,
      hrepeats]
  · have hrepeats : (entry.repeats before.length outcomes).filter
        (fun e => e.origin = offset) = [] := by
      rw [List.filter_eq_nil_iff]
      intro e he
      simp [(mem_repeats he).1, h]
    simp only [chain, List.filter_append, List.filter_cons, hhandle, h, decide_false, if_false,
      hrepeats, List.append_nil, Bool.false_eq_true]

theorem sound_handle (hwaiting : entry.result = none) (h : Sound (before ++ entry :: after)) :
    Sound (before ++ entry.handle outcomes ::
      (after ++ entry.repeats before.length outcomes)) := by
  have hentry : entry ∈ before ++ entry :: after := by simp
  constructor
  · -- The origin of a retry is the origin of what it repeats.
    intro found hfound
    have hlt : found.origin < (before ++ entry :: after).length := by
      rcases mem_handle hfound with hold | rfl | hnew
      · exact h.origin_lt found hold
      · exact h.origin_lt entry hentry
      · rw [(mem_repeats hnew).1]
        exact h.origin_lt entry hentry
    simp only [List.length_append, List.length_cons] at hlt ⊢
    omega
  · -- Its parent is the entry that has just been handled.
    intro found hfound offset hoffset
    have hold : ∀ e ∈ before ++ entry :: after, offset ∈ e.parent → ∃ handled,
        (before ++ entry.handle outcomes ::
          (after ++ entry.repeats before.length outcomes))[offset]? = some handled ∧
        handled.result ≠ none := by
      intro e he hparent
      obtain ⟨handled, hget, hresult⟩ := h.parent_handled e he offset hparent
      exact ⟨handled, kept_handle hwaiting hget hresult, hresult⟩
    rcases mem_handle hfound with hmem | rfl | hnew
    · exact hold found hmem hoffset
    · exact hold entry hentry hoffset
    · have hhere : offset = before.length := by
        rw [(mem_repeats hnew).2.1] at hoffset
        exact (Option.some.inj hoffset).symm
      subst hhere
      exact ⟨entry.handle outcomes, by simp, Option.some_ne_none _⟩
  · -- And it is the new end of its chain, while all other chains are as they were.
    rintro offset ⟨found, hget, hparent, hheader⟩
    have hfresh : Fresh (before ++ entry :: after) offset := by
      rcases found_handle hget with hold | ⟨rfl, rfl⟩ | hnew
      · exact ⟨found, hold, hparent, hheader⟩
      · exact ⟨entry, by simp, hparent, hheader⟩
      · rw [(mem_repeats hnew).2.1] at hparent
        exact nomatch hparent
    have hchain := h.chained offset hfresh
    rw [chain_handle]
    by_cases horigin : entry.origin = offset
    · rw [if_pos horigin]
      have hsplit : chain (before ++ entry :: after) offset =
          chain before offset ++ entry :: chain after offset := by
        simp [chain, List.filter_append, horigin]
      rw [hsplit] at hchain
      obtain ⟨hlast, hrest⟩ := chained_handle hwaiting hchain before.length
      rw [hlast, List.nil_append]
      exact hrest
    · rw [if_neg horigin]
      exact hchain

/-! ### Runs -/

theorem accounted_publish (message : EventMessage) (h : AllAccounted topic) :
    AllAccounted (topic ++ [{ message, origin := topic.length }]) := by
  intro offset entry handled hget hresult hcommitted
  -- The new message has no result yet, so the entry in question is an old one.
  have hold : topic[offset]? = some entry := by
    by_cases hlt : offset < topic.length
    · rw [List.getElem?_append_left hlt] at hget
      exact hget
    · rw [List.getElem?_append_right (Nat.le_of_not_lt hlt)] at hget
      have hnew := List.mem_singleton.mp (List.mem_of_getElem? hget)
      rw [hnew] at hresult
      exact nomatch hresult
  rcases h offset entry handled hold hresult hcommitted with hdone | ⟨repeated, hmem, hone⟩ | hdead
  · exact Or.inl hdone
  · exact Or.inr (Or.inl ⟨repeated, List.mem_append_left _ hmem, hone⟩)
  · exact Or.inr (Or.inr hdead)

/-- After a message has been handled everything is accounted for if and only if
    this message is. -/
theorem accounted_handle (hwaiting : entry.result = none)
    (hsound : Sound (before ++ entry :: after))
    (h : AllAccounted (before ++ entry :: after)) :
    AllAccounted (before ++ entry.handle outcomes ::
        (after ++ entry.repeats before.length outcomes)) ↔
      Accounted entry.message (handleTransactionEvent entry.message outcomes) := by
  have hhere : (before ++ entry.handle outcomes ::
      (after ++ entry.repeats before.length outcomes))[before.length]? =
      some (entry.handle outcomes) := by simp
  constructor
  · intro hall hcommitted
    rcases hall before.length _ _ hhere rfl hcommitted with
      hdone | ⟨repeated, hmem, hparent, hone⟩ | hdead
    · exact Or.inl hdone
    · refine Or.inr (Or.inl ⟨repeated.message, ?_, hone⟩)
      -- Nothing repeated this message before it was handled.
      have hnone : ∀ e ∈ before ++ entry :: after, e.parent ≠ some before.length := by
        intro e he hsome
        obtain ⟨handled, hget, hresult⟩ := hsound.parent_handled e he before.length hsome
        simp only [List.getElem?_append_right, Nat.le_refl, Nat.sub_self,
          List.getElem?_cons_zero, Option.some.injEq] at hget
        exact hresult (hget ▸ hwaiting)
      rcases mem_handle hmem with hold | rfl | hnew
      · exact absurd hparent (hnone repeated hold)
      · exact absurd hparent (hnone entry (by simp))
      · exact (mem_repeats hnew).2.2.2
    · exact Or.inr (Or.inr hdead)
  · intro hone offset found handled hget hresult hcommitted
    rcases found_handle hget with hold | ⟨rfl, rfl⟩ | hnew
    · rcases h offset found handled hold hresult hcommitted with
        hdone | ⟨repeated, hmem, hparent, hcount⟩ | hdead
      · exact Or.inl hdone
      · right
        left
        simp only [List.mem_append, List.mem_cons] at hmem
        rcases hmem with hb | rfl | ha
        · exact ⟨repeated, by simp [hb], hparent, hcount⟩
        · exact ⟨repeated.handle outcomes, by simp, hparent, hcount⟩
        · exact ⟨repeated, by simp [ha], hparent, hcount⟩
      · exact Or.inr (Or.inr hdead)
    · cases Option.some.inj hresult
      rcases hone hcommitted with hdone | ⟨repeated, hrepeated, hcount⟩ | hdead
      · exact Or.inl hdone
      · refine Or.inr (Or.inl ⟨⟨repeated, entry.origin, some before.length, none⟩, ?_, rfl, hcount⟩)
        have hrepeats : entry.repeats before.length outcomes =
            [⟨repeated, entry.origin, some before.length, none⟩] := by
          simp only [Entry.repeats, Option.mem_def.mp hrepeated]
        simp [hrepeats]
      · exact Or.inr (Or.inr hdead)
    · rw [(mem_repeats hnew).2.2.1] at hresult
      exact nomatch hresult

/-- What one step does to a topic where everything is accounted for. -/
theorem advance_accounted (call : TopicCall) (hsound : Sound topic) (h : AllAccounted topic) :
    Sound (advance topic call).2 ∧
      (AllAccounted (advance topic call).2 ↔ ¬ Drops topic call) := by
  rcases advance_cases topic call with ⟨message, rfl, hnew⟩ |
    ⟨before, entry, after, outcomes, rfl, rfl, hwaiting, hnew⟩ | ⟨hsame, hhandled⟩
  · rw [hnew]
    exact ⟨sound_publish message hsound, iff_of_true (accounted_publish message h) id⟩
  · rw [hnew]
    refine ⟨sound_handle hwaiting hsound, ?_⟩
    rw [accounted_handle hwaiting hsound h, accounted_iff_not_dropped]
    refine not_congr ⟨fun hdropped => ⟨entry, by simp, hwaiting, hdropped⟩, ?_⟩
    rintro ⟨found, hget, -, hdropped⟩
    simp only [List.getElem?_append_right, Nat.le_refl, Nat.sub_self, List.getElem?_cons_zero,
      Option.some.injEq] at hget
    exact hget ▸ hdropped
  · -- Nothing happens, for want of an entry that is waiting there.
    rw [hsame]
    refine ⟨hsound, iff_of_true h fun hdrops => ?_⟩
    cases call with
    | publish message => exact hdrops
    | handle offset outcomes =>
        obtain ⟨entry, hget, hwaiting, -⟩ := hdrops
        exact hhandled offset outcomes entry rfl hget hwaiting

/-- In every run the commits are accounted for and the handlers bounded, as long
    as and only as long as no message is dropped. -/
theorem settled_iff (calls : List TopicCall) :
    Along advance (fun _ _ _ topic => AllAccounted topic ∧ Bounded topic) calls [] ↔
      Along advance (fun call topic _ _ => ¬ Drops topic call) calls [] := by
  refine along_iff (I := fun topic => Sound topic ∧ AllAccounted topic) ?_ ?_
    ⟨sound_nil, fun _ _ _ h => nomatch h⟩
  · intro call topic ⟨hsound, h⟩
    obtain ⟨hsound', hiff⟩ := advance_accounted call hsound h
    rw [← hiff]
    exact and_iff_left (bounded_of_sound hsound')
  · intro call topic ⟨hsound, h⟩ hdrops
    obtain ⟨hsound', hiff⟩ := advance_accounted call hsound h
    exact ⟨hsound', hiff.mpr hdrops⟩

/-- A message that has been retried three times. -/
def retriedMessage : EventMessage where
  key := "a"
  value := some ⟨"transaction.created", "0"⟩
  headers := some [("retry-count", "3")]

/-- Its handler fails once more, and the dead letter queue is out of reach. -/
def unreachableOutcomes : Outcomes where
  handler := .error "processing failed"
  deadLetterEmit := .error "broker not available"

theorem not_settled :
    ¬ ∀ calls, Along advance (fun _ _ _ topic => AllAccounted topic ∧ Bounded topic) calls [] := by
  intro h
  have hrun := h [.publish retriedMessage, .handle 0 unreachableOutcomes]
  have hnone : ∀ e ∈ (advance (advance [] (.publish retriedMessage)).2
      (.handle 0 unreachableOutcomes)).2, e.parent = none := by decide +kernel
  rcases hrun.2.1.1 0 _ _ rfl rfl (by decide +kernel) with
    hdone | ⟨repeated, hmem, hparent, -⟩ | hdead
  · exact absurd hdone (by decide +kernel)
  · exact nomatch (hnone repeated hmem).symm.trans hparent
  · exact absurd hdead (by decide +kernel)

end Transactions

end SvmCourse
