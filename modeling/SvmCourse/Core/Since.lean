import SvmCourse.Core.Contributions

/-!
# Since Then

What is left of a call is followed from what it has done, one move at a time. So a
property that a call has made true stays true until some other call makes it false
again, if that is what the accesses of the other calls do not do.

Calls of a kind may stand for those that would make it false. It is enough that they
have returned and that no other is started.

## Main definitions

* `Followed`: What is left of the calls is what they may do.
* `Since`: What the accesses of one call have left is still there.
* `Quiet`: Calls of a kind have returned.

## Theorems

* `followed_cases`: What one move does.
* `seen_record`: Histories grow by one access at a time.
* `since_record`, `quiet_record`: What one move keeps.
-/

namespace Core

namespace Sched

open Prog Machine

variable {σ ε κ : Type}

/-! ### What calls follow -/

section

variable {program : κ → Prog σ ε Unit} {B : κ → List (σ × σ) → σ → σ → Prop}
  {R : κ → List (σ × σ) → Except ε Unit → Prop} {r : Recorded σ ε κ}

/-- What is left of the calls is what they may do after what they have done. -/
def Followed (B : κ → List (σ × σ) → σ → σ → Prop) (R : κ → List (σ × σ) → Except ε Unit → Prop)
    (r : Recorded σ ε κ) : Prop :=
  ∀ w ∈ r.calls, w.rest.Follows (watching (B w.call)) (R w.call) w.seen

theorem followed_live (s : σ) {w : Watched σ ε κ}
    (h : w.rest.Follows (watching (B w.call)) (R w.call) w.seen) :
    (w.live s).rest.Follows (watching (B (w.live s).call)) (R (w.live s).call) (w.live s).seen := by
  unfold Watched.live
  split <;> exact h

/-- A move does nothing, or starts a call, or makes an access that its call may make. -/
theorem followed_cases (program : κ → Prog σ ε Unit) (h : Followed B R r) (m : Move κ) :
    (record program r m).2 = r ∨
    (∃ call, m = .start call ∧ (record program r m).2 =
      ⟨r.store, r.calls.map (Watched.live r.store) ++ [⟨call, program call, [], []⟩]⟩) ∨
    ∃ before call rest seen lived after next t, m = .access before.length ∧
      r.calls = before ++ ⟨call, rest, seen, lived⟩ :: after ∧ rest.unfinished = true ∧
      B call seen r.store t ∧
      next.Follows (watching (B call)) (R call) (seen ++ [(r.store, t)]) ∧
      (record program r m).2 = ⟨t, before.map (Watched.live r.store) ++
        ⟨call, next, seen ++ [(r.store, t)], lived ++ [r.store]⟩ ::
          after.map (Watched.live r.store)⟩ := by
  rcases record_cases program r m with hsame | ⟨call, hm, hnew⟩ |
    ⟨before, call, β, act, next, fail, seen, lived, after, hm, hcalls, hnew⟩
  · exact Or.inl hsame
  · exact Or.inr (Or.inl ⟨call, hm, hnew⟩)
  · have hmem : ⟨call, .access act next fail, seen, lived⟩ ∈ r.calls := by
      rw [hcalls]
      exact List.mem_append_right _ (List.mem_cons_self ..)
    obtain ⟨_, ⟨rfl, hB⟩, hnext⟩ := h _ hmem r.store trivial
    exact Or.inr (Or.inr ⟨before, call, _, seen, lived, after, next (act r.store).1, _, hm, hcalls,
      rfl, hB, hnext, hnew⟩)

theorem followed_record (hprogram : ∀ call, (program call).Follows (watching (B call)) (R call) [])
    (h : Followed B R r) (m : Move κ) : Followed B R (record program r m).2 := by
  -- The other calls only see one store more.
  have hlive : ∀ calls : List (Watched σ ε κ), (∀ w ∈ calls, w ∈ r.calls) →
      ∀ w ∈ calls.map (Watched.live r.store),
        w.rest.Follows (watching (B w.call)) (R w.call) w.seen := by
    intro calls hcalls w hw
    obtain ⟨v, hv, rfl⟩ := List.mem_map.mp hw
    exact followed_live r.store (h v (hcalls v hv))
  rcases followed_cases program h m with hsame | ⟨call, -, hnew⟩ |
    ⟨before, call, rest, seen, lived, after, next, t, -, hcalls, -, -, hnext, hnew⟩
  · rw [hsame]
    exact h
  · rw [hnew]
    refine List.forall_mem_append.mpr ⟨hlive _ fun _ hw => hw, fun w hw => ?_⟩
    rw [List.mem_singleton.mp hw]
    exact hprogram call
  · rw [hnew]
    refine List.forall_mem_append.mpr ⟨hlive before fun w hw => ?_, ?_⟩
    · rw [hcalls]
      exact List.mem_append_left _ hw
    · refine List.forall_mem_cons.mpr ⟨hnext, hlive after fun w hw => ?_⟩
      rw [hcalls]
      exact List.mem_append_right _ (List.mem_cons_of_mem _ hw)

/-- Calls stay where they are, and a history grows by the access of its call. -/
theorem seen_record (program : κ → Prog σ ε Unit) (m : Move κ) {i : Nat} {w : Watched σ ε κ}
    (hw : r.calls[i]? = some w) :
    ∃ w', (record program r m).2.calls[i]? = some w' ∧ w'.call = w.call ∧
      (w'.seen = w.seen ∨ w'.seen = w.seen ++ [(r.store, (record program r m).2.store)]) := by
  have hlive : (r.calls.map (Watched.live r.store))[i]? = some (w.live r.store) := by
    rw [List.getElem?_map, hw]
    rfl
  have hcall : (w.live r.store).call = w.call := call_live _ _
  have hseen : (w.live r.store).seen = w.seen := seen_live _ _
  cases m with
  | start call =>
      refine ⟨_, ?_, hcall, Or.inl hseen⟩
      have hlt := (List.getElem?_eq_some_iff.mp hlive).1
      exact (List.getElem?_append_left hlt).trans hlive
  | access j =>
      rcases record_cases program r (.access j) with hsame | ⟨call, hno, -⟩ |
        ⟨before, call, β, act, next, fail, seen, lived, after, hm, hcalls, hnew⟩
      · rw [hsame]
        exact ⟨w, hw, rfl, Or.inl rfl⟩
      · cases hno
      · rw [hnew]
        rw [hcalls, List.map_append, List.map_cons] at hlive
        rw [hcalls] at hw
        -- The access is that of the call itself, or of another one.
        by_cases hi : i = before.length
        · subst hi
          rw [List.getElem?_append_right (Nat.le_refl _), Nat.sub_self] at hw
          cases hw
          refine ⟨⟨call, next (act r.store).1, seen ++ [(r.store, (act r.store).2)],
            lived ++ [r.store]⟩, ?_, rfl, Or.inr rfl⟩
          rw [List.getElem?_append_right (by rw [List.length_map]), List.length_map, Nat.sub_self]
          rfl
        · refine ⟨_, ?_, hcall, Or.inl hseen⟩
          rcases Nat.lt_or_gt_of_ne hi with hlt | hgt
          · rw [List.getElem?_append_left (by rwa [List.length_map])] at hlive ⊢
            exact hlive
          · obtain ⟨k, hk⟩ : ∃ k, i - (before.map (Watched.live r.store)).length = k + 1 := by
              rw [List.length_map]
              exact ⟨i - before.length - 1, by omega⟩
            rw [List.getElem?_append_right (by rw [List.length_map]; omega), hk,
              List.getElem?_cons_succ] at hlive ⊢
            exact hlive

/-- A call is at a place. If its first access has found what it needs, something is
    known, and what its accesses have left is still there. -/
structure Since (i : Nat) (call : κ) (G : σ → Prop) (K : Recorded σ ε κ → Prop) (P : σ → Prop)
    (r : Recorded σ ε κ) : Prop where
  place : ∃ w, r.calls[i]? = some w ∧ w.call = call
  stays : ∀ w, r.calls[i]? = some w → ∀ p, w.seen.head? = some p → G p.1 →
    K r ∧ ∀ q ∈ w.seen, P q.2 → P r.store

/-- A call that has been started has found nothing so far. -/
theorem since_start (program : κ → Prog σ ε Unit) (r : Recorded σ ε κ) (call : κ)
    (G : σ → Prop) (K : Recorded σ ε κ → Prop) (P : σ → Prop) :
    Since r.calls.length call G K P (record program r (.start call)).2 := by
  have hlast : (record program r (.start call)).2.calls[r.calls.length]? =
      some ⟨call, program call, [], []⟩ := by
    have hlength : r.calls.length = (r.calls.map (Watched.live r.store)).length := by
      rw [List.length_map]
    rw [hlength]
    exact List.getElem?_concat_length
  refine ⟨⟨_, hlast, rfl⟩, fun w hw p hp => ?_⟩
  rw [hlast] at hw
  cases hw
  cases hp

/-- What is known stays known, and as long as it is known what is there stays there. -/
theorem since_record {i : Nat} {call : κ} {G : σ → Prop} {K : Recorded σ ε κ → Prop} {P : σ → Prop}
    (h : Since i call G K P r) {m : Move κ} (hfirst : G r.store → K r)
    (hknown : K r → K (record program r m).2)
    (hstays : K r → P r.store → P (record program r m).2.store) :
    Since i call G K P (record program r m).2 := by
  obtain ⟨v, hv, hcall⟩ := h.place
  obtain ⟨w, hw, hcall', hseen⟩ := seen_record program m hv
  refine ⟨⟨w, hw, hcall'.trans hcall⟩, fun w' hw' p hp hG => ?_⟩
  obtain rfl := Option.some.inj (hw.symm.trans hw')
  rcases hseen with hsame | hmore
  · rw [hsame] at hp ⊢
    obtain ⟨hK, hP⟩ := h.stays v hv p hp hG
    exact ⟨hknown hK, fun q hq hq' => hstays hK (hP q hq hq')⟩
  · rw [hmore] at hp ⊢
    by_cases hnil : v.seen = []
    · -- It is the first access.
      rw [hnil] at hp ⊢
      cases hp
      refine ⟨hknown (hfirst hG), fun q hq hq' => ?_⟩
      rw [List.mem_singleton.mp hq] at hq'
      exact hq'
    · rw [List.head?_append_of_ne_nil _ hnil] at hp
      obtain ⟨hK, hP⟩ := h.stays v hv p hp hG
      refine ⟨hknown hK, fun q hq hq' => ?_⟩
      rcases List.mem_append.mp hq with hq | hq
      · exact hstays hK (hP q hq hq')
      · rw [List.mem_singleton.mp hq] at hq'
        exact hq'

end

/-- Calls of a kind have returned. -/
def Quiet (kind : κ → Prop) (r : Recorded σ ε κ) : Prop :=
  ∀ w ∈ r.calls, kind w.call → w.rest.unfinished = false

/-- They stay so if no other is started. -/
theorem quiet_record {program : κ → Prog σ ε Unit} {kind : κ → Prop} {r : Recorded σ ε κ}
    (h : Quiet kind r) {m : Move κ} (hm : ∀ call, m = .start call → ¬kind call) :
    Quiet kind (record program r m).2 := by
  have hlive : ∀ calls : List (Watched σ ε κ), (∀ w ∈ calls, w ∈ r.calls) →
      ∀ w ∈ calls.map (Watched.live r.store), kind w.call → w.rest.unfinished = false := by
    intro calls hcalls w hw hkind
    obtain ⟨v, hv, rfl⟩ := List.mem_map.mp hw
    rw [call_live] at hkind
    have hdone := h v (hcalls v hv) hkind
    rwa [Watched.live, if_neg (by rw [hdone]; exact Bool.false_ne_true)]
  rcases record_cases program r m with hsame | ⟨call, rfl, hnew⟩ |
    ⟨before, call, β, act, next, fail, seen, lived, after, rfl, hcalls, hnew⟩
  · rw [hsame]
    exact h
  · rw [hnew]
    refine List.forall_mem_append.mpr ⟨hlive _ fun _ hw => hw, fun w hw hkind => ?_⟩
    rw [List.mem_singleton.mp hw] at hkind
    exact absurd hkind (hm call rfl)
  · rw [hnew]
    refine List.forall_mem_append.mpr ⟨hlive before fun w hw => ?_, ?_⟩
    · rw [hcalls]
      exact List.mem_append_left _ hw
    · refine List.forall_mem_cons.mpr ⟨fun hkind => ?_, hlive after fun w hw => ?_⟩
      · -- A call of the kind would make no access.
        have hdone := h ⟨call, .access act next fail, seen, lived⟩
          (hcalls ▸ List.mem_append_right _ (List.mem_cons_self ..)) hkind
        cases hdone
      · rw [hcalls]
        exact List.mem_append_right _ (List.mem_cons_of_mem _ hw)

end Sched

end Core
