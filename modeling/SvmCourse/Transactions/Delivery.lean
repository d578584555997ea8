import SvmCourse.Transactions.Publisher

/-!
# Delivery

Publishing neither loses events nor repeats them, as long as no flush fails in
the middle. A flush that fails puts its whole batch back into the buffer. When
the emit that fails is the first of its flush, nothing of the batch has been
emitted and this is right. When it is a later one, the events in front of it
have been emitted, and the next flush emits them again.

The argument is a count. Every event is in exactly one place: in the buffer,
among what some flush has still to emit, or among what has been emitted. Each
change moves events from one of these places to another, so what is in them is
always a rearrangement of what has been published.

## Main definitions

* `NoneLost`: Every event is in the buffer, in a flush, or emitted.
* `FailsFirst`: A failing emit is the first of its flush.
* `Placed`: Every event is in one place.

## Theorems

* `placed_step`: A step that fails no later emit moves events about.
* `published_once`: Runs without such failures lose and repeat nothing.
-/

namespace SvmCourse

namespace Transactions

open Core Machine

variable {s : Publisher} {call : Call}

/-- Every event handed to the publisher is in the buffer, in the batch of a
    flush, or emitted. -/
def NoneLost (s : Publisher) : Prop :=
  ∀ event ∈ s.history, event ∈ s.eventBuffer ∨
    (∃ flush ∈ s.flushes, event ∈ flush.eventsToFlush) ∨ event ∈ s.emitted

/-- If the call is the failure of an emit, the flush has emitted nothing yet. -/
def FailsFirst (s : Publisher) : Call → Prop
  | .settle i (.error _) => ∀ flush ∈ s.flushes[i]?, flush.sent = []
  | _ => True

instance (s : Publisher) : (call : Call) → Decidable (FailsFirst s call)
  | .settle i (.error _) =>
    inferInstanceAs (Decidable (∀ flush ∈ s.flushes[i]?, flush.sent = []))
  | .settle _ (.ok ()) => isTrue trivial
  | .publishEvent _ => isTrue trivial
  | .flushEvents => isTrue trivial

instance (s : Publisher) : Decidable (NoneLost s) :=
  inferInstanceAs (Decidable (∀ event ∈ s.history, _))

/-- No event is lost, whatever becomes of the emits. -/
theorem noneLost_of_kept (h : Kept s) : NoneLost s := by
  intro event hevent
  have hplace := (h.mem_places event).mpr hevent
  simp only [Publisher.places, List.mem_append, List.mem_flatMap] at hplace
  rcases hplace with hbuffer | ⟨flush, hflush, hmem⟩ | hemitted
  · exact Or.inl hbuffer
  · exact Or.inr (Or.inl ⟨flush, hflush, List.mem_append_right _ hmem⟩)
  · exact Or.inr (Or.inr hemitted)

/-! ### Every event in one place -/

/-- What is in the places is what has been published, and nothing has been
    published twice. -/
structure Placed (s : Publisher) : Prop where
  perm : s.places.Perm s.history
  numbered : Numbered s

/-- In particular nothing has been emitted twice. -/
theorem nodup_emitted (h : Placed s) : s.emitted.Nodup := by
  have hplaces : s.places.Nodup := h.perm.nodup_iff.mpr h.numbered.nodup
  have hmoving : (s.flushes.flatMap Flush.left ++ s.emitted).Nodup :=
    (List.nodup_append.mp hplaces).2.1
  exact (List.nodup_append.mp hmoving).2.1

theorem placed_empty : Placed {} := ⟨List.Perm.refl _, rfl⟩

theorem placed_push (message : TransactionEventMessage) (h : Placed s) :
    Placed (s.push message) := by
  constructor
  · -- The new event stands in the middle of the places and at the end of the history.
    have hmoved : (s.push message).places.Perm
        (s.places ++ [⟨s.history.length, message⟩]) := by
      simp only [Publisher.places, Publisher.push, List.append_assoc]
      exact (List.perm_append_comm.trans (by simp [List.append_assoc])).append_left _
    exact hmoved.trans (h.perm.append_right _)
  · exact numbered_push message h.numbered

theorem placed_flushEvents (h : Placed s) : Placed s.flushEvents.2 := by
  cases hbuffer : s.eventBuffer with
  | nil =>
      simp only [Publisher.flushEvents, hbuffer]
      exact h
  | cons event events =>
      simp only [Publisher.flushEvents, hbuffer]
      refine ⟨?_, h.numbered⟩
      have hperm := h.perm
      simp only [Publisher.places, hbuffer] at hperm
      simp only [Publisher.places, List.nil_append, List.flatMap_append, List.flatMap_singleton,
        Flush.left]
      -- The buffer goes past what the other flushes have left.
      refine List.Perm.trans ?_ hperm
      rw [← List.append_assoc]
      exact List.perm_append_comm.append_right _

theorem placed_emits {before after : List Flush} {flush : Flush}
    (hflushes : s.flushes = before ++ flush :: after) (h : Placed s) :
    Placed { s with
             emitted := s.emitted ++ [flush.emitting]
             flushes := before ++ (flush.advance.toList ++ after) } := by
  refine ⟨?_, h.numbered⟩
  have hperm := h.perm
  simp only [Publisher.places, hflushes, List.flatMap_append, List.flatMap_cons,
    left_advance flush] at hperm
  simp only [Publisher.places, List.flatMap_append]
  refine List.Perm.trans (List.Perm.append_left _ ?_) hperm
  -- The event goes from its flush to the end of what has been emitted.
  simp only [List.append_assoc, List.cons_append]
  refine List.Perm.append_left _ ?_
  have hlast := List.perm_append_singleton flush.emitting
    (flush.advance.toList.flatMap Flush.left ++ (after.flatMap Flush.left ++ s.emitted))
  simpa only [List.append_assoc] using hlast

theorem placed_requeues {before after : List Flush} {flush : Flush}
    (hflushes : s.flushes = before ++ flush :: after) (hfirst : flush.sent = []) (h : Placed s) :
    Placed { s with
             eventBuffer := flush.eventsToFlush ++ s.eventBuffer
             flushes := before ++ after } := by
  refine ⟨?_, h.numbered⟩
  have hall : flush.eventsToFlush = flush.left := by
    rw [Flush.eventsToFlush, hfirst, List.nil_append, Flush.left]
  have hperm := h.perm
  simp only [Publisher.places, hflushes, List.flatMap_append, List.flatMap_cons] at hperm
  simp only [Publisher.places, List.flatMap_append, hall]
  refine List.Perm.trans ?_ hperm
  simp only [List.append_assoc]
  -- What the flush has left goes to the front, past the buffer and the flushes before it.
  refine (List.perm_append_comm_assoc _ _ _).trans (List.Perm.append_left _ ?_)
  exact List.perm_append_comm_assoc _ _ _

theorem placed_step (hfirst : FailsFirst s call) (h : Placed s) : Placed (step s call).2 := by
  refine step_keeps placed_push (fun _ _ => placed_flushEvents)
    (fun _ _ _ hflushes _ => placed_emits hflushes) ?_ h
  rintro before flush after error hflushes rfl hs
  refine placed_requeues hflushes (hfirst flush ?_) hs
  simp [hflushes]

/-! ### Runs -/

/-- Publishing neither loses nor repeats events when the only emits that fail
    are the first of their flush. -/
theorem published_once {calls : List Call}
    (h : Along step (fun call s _ _ => FailsFirst s call) calls {}) :
    Along step (fun _ _ _ s => NoneLost s ∧ s.emitted.Nodup) calls {} := by
  refine along_invariant (I := fun s => Kept s ∧ Placed s) ?_ ⟨kept_empty, placed_empty⟩ h
  intro call s hfirst ⟨hkept, hplaced⟩
  have hkept' := kept_step call hkept
  have hplaced' := placed_step hfirst hplaced
  exact ⟨⟨noneLost_of_kept hkept', nodup_emitted hplaced'⟩, hkept', hplaced'⟩

/-- A message about the creation of a transfer. -/
def createdMessage (signature : String) : TransactionEventMessage :=
  (transactionCreated { signature, type := .TRANSFER }).message

/-- Two events and a flush that fails on its first emit. The next flush emits
    both. -/
theorem published_once_twoEvents :
    Along step (fun _ _ _ s => NoneLost s ∧ s.emitted.Nodup)
      [.publishEvent (createdMessage "a"), .publishEvent (createdMessage "b"), .flushEvents,
        .settle 0 (.error "broker not available"), .flushEvents, .settle 0 (.ok ()),
        .settle 0 (.ok ())] {} :=
  published_once (by decide +kernel)

/-- When the second emit fails, the event in front of it goes back into the
    buffer with it and is emitted by the next flush once more. -/
theorem not_published_once :
    ¬ ∀ calls, Along step (fun _ _ _ s => NoneLost s ∧ s.emitted.Nodup) calls {} := by
  intro h
  have hrun := h [.publishEvent (createdMessage "a"), .publishEvent (createdMessage "b"),
    .flushEvents, .settle 0 (.ok ()), .settle 0 (.error "broker not available"), .flushEvents,
    .settle 0 (.ok ())]
  exact absurd hrun (by decide +kernel)

end Transactions

end SvmCourse
