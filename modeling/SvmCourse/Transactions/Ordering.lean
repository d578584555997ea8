import SvmCourse.Transactions.Publisher

/-!
# The Order of Events

The events of one transaction are emitted in the order in which they were
published, as long as no flush takes an event while an earlier event of the
same transaction is still to be emitted by another flush. Two flushes emit side
by side, and nothing keeps the later one from being faster.

A failed emit does no harm. The batch goes back to the front of the buffer, so
what it has not emitted stays in front of everything published since, and what
it has emitted has been seen.

## Main definitions

* `Earlier`: Published earlier, about the same transaction.
* `InOrder`: No event is emitted before an earlier one has been.
* `Clear`: No flush holds back an event that is ahead of the buffer.
* `Behind`: Wherever the later event is, the earlier one is ahead of it.

## Theorems

* `lined_step`: A step that overtakes nothing keeps the order.
* `emitted_inOrder`: Runs of such steps emit in order.
-/

namespace SvmCourse

namespace Transactions

open Core Machine

variable {s : Publisher} {call : Call} {a b : Published}

/-- Both have been published, one before the other, and are about the same
    transaction. -/
def Earlier (s : Publisher) (a b : Published) : Prop :=
  a ∈ s.history ∧ b ∈ s.history ∧ a.number < b.number ∧
    a.message.value.signature = b.message.value.signature

/-- Of two events of one transaction the later one is not emitted before the
    earlier one has been. -/
def InOrder (s : Publisher) : Prop :=
  ∀ a ∈ s.history, ∀ b ∈ s.history, a.number < b.number →
    a.message.value.signature = b.message.value.signature → Leads a b s.emitted

/-- No event of the buffer has an earlier one of its transaction in a flush
    that has still to emit it. -/
def Clear (s : Publisher) : Prop :=
  ∀ flush ∈ s.flushes, ∀ a ∈ flush.left, a ∉ s.emitted → ∀ b ∈ s.eventBuffer,
    a.message.value.signature = b.message.value.signature → ¬ a.number < b.number

instance (s : Publisher) : Decidable (InOrder s) :=
  inferInstanceAs (Decidable (∀ a ∈ s.history, ∀ b ∈ s.history, _ → _ → _))

instance (s : Publisher) : Decidable (Clear s) :=
  inferInstanceAs (Decidable (∀ flush ∈ s.flushes, ∀ a ∈ flush.left, _ → ∀ b ∈ _, _ → _))

/-! ### One event behind another -/

/-- The one event is not emitted before the other. Until the other is emitted,
    every list that has the one has the other in front of it, except that the
    buffer may have it while a flush has the other. -/
structure Behind (s : Publisher) (a b : Published) : Prop where
  emitted : Leads a b s.emitted
  flushes : a ∉ s.emitted → ∀ flush ∈ s.flushes, Leads a b flush.left
  buffer : a ∉ s.emitted → Leads a b s.eventBuffer ∨ ∃ flush ∈ s.flushes, a ∈ flush.left

/-- Earlier events are ahead of later ones. -/
def Ordered (s : Publisher) : Prop := ∀ a b, Earlier s a b → Behind s a b

/-- A new event is behind every event there is. -/
theorem behind_new (message : TransactionEventMessage) (hkept : Kept s) (hnumbered : Numbered s)
    (ha : a ∈ s.history) : Behind (s.push message) a ⟨s.history.length, message⟩ := by
  -- The new event has a number that no event had before.
  have hnew : (⟨s.history.length, message⟩ : Published) ∉ s.places := by
    intro hmem
    have hlt := hnumbered.lt_length ((hkept.mem_places _).mp hmem)
    exact Nat.lt_irrefl _ hlt
  have hplace := (hkept.mem_places a).mpr ha
  simp only [Publisher.places, List.mem_append, List.mem_flatMap, not_or] at hnew hplace
  obtain ⟨hbuffer, hflushes, hemitted⟩ := hnew
  constructor
  · exact leads_of_not_mem hemitted
  · intro _ flush hflush
    exact leads_of_not_mem fun hmem => hflushes ⟨flush, hflush, hmem⟩
  · intro hnot
    rcases hplace with hmem | hflush | hmem
    · exact Or.inl (leads_append.mpr ⟨leads_of_not_mem hbuffer, Or.inl hmem⟩)
    · exact Or.inr hflush
    · exact absurd hmem hnot

theorem behind_push (message : TransactionEventMessage) (hnumbered : Numbered s)
    (hb : b ∈ s.history) (h : Behind s a b) : Behind (s.push message) a b := by
  have hne : (⟨s.history.length, message⟩ : Published) ≠ b := by
    rintro rfl
    exact Nat.lt_irrefl _ (hnumbered.lt_length hb)
  refine ⟨h.emitted, h.flushes, fun hnot => ?_⟩
  rcases h.buffer hnot with hleads | hflush
  · exact Or.inl (leads_append.mpr ⟨hleads, Or.inr (Or.inr ⟨hne, leads_nil⟩)⟩)
  · exact Or.inr hflush

/-- The new flush has what the buffer had. Nothing in the buffer was behind an
    event of another flush. -/
theorem behind_flushEvents (hclear : Clear s) (hab : Earlier s a b) (h : Behind s a b) :
    Behind s.flushEvents.2 a b := by
  cases hbuffer : s.eventBuffer with
  | nil =>
      simp only [Publisher.flushEvents, hbuffer]
      exact h
  | cons first events =>
      simp only [Publisher.flushEvents, hbuffer]
      refine ⟨h.emitted, fun hnot flush hflush => ?_, fun _ => Or.inl leads_nil⟩
      rcases List.mem_append.mp hflush with hold | hnew
      · exact h.flushes hnot flush hold
      · rw [List.mem_singleton.mp hnew]
        -- If another flush still had the one event, the other would not be taken.
        have hall : Leads a b s.eventBuffer := by
          rcases h.buffer hnot with hleads | ⟨other, hother, hmem⟩
          · exact hleads
          · refine leads_of_not_mem fun hb => ?_
            exact hclear other hother a hmem hnot b hb hab.2.2.2 hab.2.2.1
        rw [hbuffer] at hall
        exact hall

theorem left_of_advance {flush next : Flush} (h : next ∈ flush.advance.toList) :
    next.left = flush.waiting := by
  cases hwaiting : flush.waiting with
  | nil => simp [Flush.advance, hwaiting] at h
  | cons event events =>
      simp only [Flush.advance, hwaiting, Option.toList_some, List.mem_singleton] at h
      rw [h, Flush.left]

theorem behind_emits {before after : List Flush} {flush : Flush}
    (hflushes : s.flushes = before ++ flush :: after) (h : Behind s a b) :
    Behind { s with
             emitted := s.emitted ++ [flush.emitting]
             flushes := before ++ (flush.advance.toList ++ after) } a b := by
  constructor
  · by_cases hmem : a ∈ s.emitted
    · exact leads_append.mpr ⟨h.emitted, Or.inl hmem⟩
    · -- The event that is emitted stands at the front of what the flush has left.
      have hleft := h.flushes hmem flush (by simp [hflushes])
      refine leads_append.mpr ⟨h.emitted, Or.inr ?_⟩
      rcases leads_cons.mp hleft with heq | ⟨hne, -⟩
      · exact Or.inl heq
      · exact Or.inr ⟨hne, leads_nil⟩
  · intro hnot other hother
    simp only [List.mem_append, List.mem_singleton, not_or] at hnot hother
    have hold := h.flushes hnot.1
    rw [hflushes] at hold
    rcases hother with hb | hadvanced | ha
    · exact hold other (by simp [hb])
    · -- The front is emitted now, so it is not the event that is still open.
      rw [left_of_advance hadvanced]
      rcases leads_cons.mp (hold flush (by simp)) with heq | ⟨-, hleads⟩
      · exact absurd heq.symm hnot.2
      · exact hleads
    · exact hold other (by simp [ha])
  · intro hnot
    simp only [List.mem_append, List.mem_singleton, not_or] at hnot
    rcases h.buffer hnot.1 with hleads | ⟨other, hother, hmem⟩
    · exact Or.inl hleads
    · right
      rw [hflushes, List.mem_append, List.mem_cons] at hother
      rcases hother with hb | rfl | ha
      · exact ⟨other, by simp [hb], hmem⟩
      · rw [left_advance, List.mem_cons, List.mem_flatMap] at hmem
        rcases hmem with heq | ⟨next, hnext, hmem⟩
        · exact absurd heq hnot.2
        · exact ⟨next, by simp [Option.mem_toList.mp hnext], hmem⟩
      · exact ⟨other, by simp [ha], hmem⟩

/-- The batch goes in front of the buffer, and what it had emitted is no longer
    in question. -/
theorem behind_requeues {before after : List Flush} {flush : Flush}
    (hflushes : s.flushes = before ++ flush :: after) (hkept : Kept s) (h : Behind s a b) :
    Behind { s with
             eventBuffer := flush.eventsToFlush ++ s.eventBuffer
             flushes := before ++ after } a b := by
  have hin : flush ∈ s.flushes := by simp [hflushes]
  refine ⟨h.emitted, fun hnot other hother => ?_, fun hnot => ?_⟩
  · refine h.flushes hnot other ?_
    rw [hflushes]
    rcases List.mem_append.mp hother with hb | ha
    · exact List.mem_append_left _ hb
    · exact List.mem_append_right _ (List.mem_cons_of_mem _ ha)
  · -- The other event was not emitted either, so the batch is still in order.
    have hsent : Leads a b flush.sent := by
      have hb : b ∉ s.emitted := (leads_iff_not_mem hnot).mp h.emitted
      exact leads_of_not_mem fun hmem => hb (hkept.sent flush hin b hmem)
    have hbatch : Leads a b flush.eventsToFlush :=
      leads_append.mpr ⟨hsent, Or.inr (h.flushes hnot flush hin)⟩
    rcases h.buffer hnot with hleads | ⟨other, hother, hmem⟩
    · exact Or.inl (leads_append.mpr ⟨hbatch, Or.inr hleads⟩)
    · rw [hflushes, List.mem_append, List.mem_cons] at hother
      rcases hother with hb | rfl | ha
      · exact Or.inr ⟨other, by simp [hb], hmem⟩
      · exact Or.inl (leads_append.mpr ⟨hbatch, Or.inl (List.mem_append_right _ hmem)⟩)
      · exact Or.inr ⟨other, by simp [ha], hmem⟩

/-! ### Steps and runs -/

/-- The order, with what the bookkeeping says besides. -/
structure Lined (s : Publisher) : Prop where
  kept : Kept s
  numbered : Numbered s
  ordered : Ordered s

theorem lined_empty : Lined {} :=
  ⟨kept_empty, rfl, fun _ _ hab => absurd hab.1 List.not_mem_nil⟩

theorem lined_push (message : TransactionEventMessage) (h : Lined s) : Lined (s.push message) := by
  refine ⟨kept_push message h.kept, numbered_push message h.numbered, ?_⟩
  rintro a b ⟨ha, hb, hlt, hsignature⟩
  rcases List.mem_append.mp ha with ha | ha <;> rcases List.mem_append.mp hb with hb | hb
  · exact behind_push message h.numbered hb (h.ordered a b ⟨ha, hb, hlt, hsignature⟩)
  · rw [List.mem_singleton.mp hb]
    exact behind_new message h.kept h.numbered ha
  · -- Nothing is earlier than what has been there before.
    have hsmall := h.numbered.lt_length hb
    rw [List.mem_singleton.mp ha] at hlt
    exact absurd hlt (Nat.lt_asymm hsmall)
  · rw [List.mem_singleton.mp ha, List.mem_singleton.mp hb] at hlt
    exact absurd hlt (Nat.lt_irrefl _)

theorem history_flushEvents (s : Publisher) : s.flushEvents.2.history = s.history := by
  unfold Publisher.flushEvents
  split <;> rfl

theorem lined_flushEvents (hclear : Clear s) (h : Lined s) : Lined s.flushEvents.2 := by
  refine ⟨kept_flushEvents h.kept, numbered_flushEvents h.numbered, fun a b hab => ?_⟩
  rw [Earlier, history_flushEvents] at hab
  exact behind_flushEvents hclear hab (h.ordered a b hab)

/-- A step that takes no event past an earlier one keeps the order. -/
theorem lined_step (hclear : ∀ t ∈ flushing s call, Clear t) (h : Lined s) :
    Lined (step s call).2 := by
  refine step_keeps lined_push (fun t ht => lined_flushEvents (hclear t ht)) ?_ ?_ h
  · intro before flush after hflushes _ hs
    exact ⟨kept_emits hflushes hs.kept, hs.numbered,
      fun a b hab => behind_emits hflushes (hs.ordered a b hab)⟩
  · intro before flush after error hflushes _ hs
    exact ⟨kept_requeues hflushes hs.kept, hs.numbered,
      fun a b hab => behind_requeues hflushes hs.kept (hs.ordered a b hab)⟩

/-- The events of every transaction are emitted in the order of publication
    when no flush takes an event while another has still to emit an earlier one
    of the same transaction. -/
theorem emitted_inOrder {calls : List Call}
    (h : Along step (fun call s _ _ => ∀ t ∈ flushing s call, Clear t) calls {}) :
    Along step (fun _ _ _ s => InOrder s) calls {} := by
  refine along_invariant (I := Lined) (fun call s hclear hs => ?_) lined_empty h
  have hstep := lined_step hclear hs
  refine ⟨fun a ha b hb hlt hsignature => ?_, hstep⟩
  exact (hstep.ordered a b ⟨ha, hb, hlt, hsignature⟩).emitted

/-- A message about the confirmation of a transfer. -/
def confirmedMessage (signature : String) : TransactionEventMessage :=
  (transactionConfirmed { signature, type := .TRANSFER, status := .CONFIRMED }).message

/-- Three flushes side by side, after one that failed. The second event about a
    transfer is taken when the first has been emitted. -/
theorem emitted_inOrder_twoEvents :
    Along step (fun _ _ _ s => InOrder s)
      [.publishEvent (confirmedMessage "a"), .flushEvents,
        .settle 0 (.error "broker not available"),
        .publishEvent (confirmedMessage "b"), .flushEvents, .publishEvent (confirmedMessage "c"),
        .flushEvents, .settle 0 (.ok ()), .publishEvent (confirmedMessage "a"), .flushEvents,
        .settle 2 (.ok ()), .settle 0 (.ok ()), .settle 0 (.ok ())] {} :=
  emitted_inOrder (by decide +kernel)

/-- The second flush may be done first. -/
theorem not_emitted_inOrder :
    ¬ ∀ calls, Along step (fun _ _ _ s => InOrder s) calls {} := by
  intro h
  have hrun := h [.publishEvent (confirmedMessage "a"), .flushEvents,
    .publishEvent (confirmedMessage "a"), .flushEvents, .settle 1 (.ok ())]
  exact absurd hrun (by decide +kernel)

end Transactions

end SvmCourse
