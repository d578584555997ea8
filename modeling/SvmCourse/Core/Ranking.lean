import Mathlib.Data.List.Sort
import Mathlib.Order.Defs.LinearOrder
import Mathlib.Tactic.Common

/-!
# The First of the Best

A list that is sorted by falling score, where what scores the same stays in the
order of the list, begins with the first of those that score best.

## Main definitions

* `Foremost`: Where the first of the best stands.

## Theorems

* `foremost_of_head`: The head of the sorted list.
* `foremost_map`: The first of the best of some values.
* `foremost_passes_iff`: When the first of the best passes a test.
-/

namespace Core

variable {V : Type} {S : Type} [LinearOrder S]

/-- What comes before scores less, and what comes after not more. -/
def Foremost (score : V → S) (l : List V) (best : V) : Prop :=
  ∃ before after, l = before ++ best :: after ∧ (∀ v ∈ before, score v < score best) ∧
    ∀ v ∈ after, score v ≤ score best

theorem Foremost.mem {score : V → S} {l : List V} {best : V} (h : Foremost score l best) :
    best ∈ l := by
  rcases h with ⟨before, after, rfl, -, -⟩
  exact List.mem_append_right _ (List.mem_cons_self ..)

/-- Nothing scores more than the first of the best. -/
theorem Foremost.le {score : V → S} {l : List V} {best : V} (h : Foremost score l best) :
    ∀ v ∈ l, score v ≤ score best := by
  rcases h with ⟨before, after, rfl, hbefore, hafter⟩
  intro v hv
  rcases List.mem_append.mp hv with hv | hv
  · exact (hbefore v hv).le
  · rcases List.mem_cons.mp hv with rfl | hv
    · exact le_rfl
    · exact hafter v hv

/-- A list sorted by falling score begins with the first of the best. -/
theorem foremost_of_head {score : V → S} {r : V → V → Prop} [DecidableRel r]
    (hr : ∀ a b, r a b ↔ score b ≤ score a) {l : List V} {best : V}
    (h : (l.insertionSort r).head? = some best) : Foremost score l best := by
  induction l generalizing best with
  | nil => exact nomatch h
  | cons v l ih =>
      rw [List.insertionSort_cons] at h
      cases hsorted : l.insertionSort r with
      | nil =>
          have hl : l = [] := by
            have hperm := List.perm_insertionSort r l
            rw [hsorted] at hperm
            exact hperm.symm.eq_nil
          rw [hsorted] at h
          cases h
          exact ⟨[], [], by rw [hl, List.nil_append], fun _ h => (nomatch h),
            fun _ h => (nomatch h)⟩
      | cons w sorted =>
          have hrest : Foremost score l w := ih (by rw [hsorted, List.head?_cons])
          rw [hsorted, List.orderedInsert_cons] at h
          by_cases hv : r v w
          · -- The new one scores at least what the best of the others does.
            rw [if_pos hv] at h
            obtain rfl := Option.some_inj.mp h
            exact ⟨[], l, rfl, fun _ h => (nomatch h),
              fun u hu => (hrest.le u hu).trans ((hr v w).mp hv)⟩
          · rw [if_neg hv] at h
            obtain rfl := Option.some_inj.mp h
            rcases hrest with ⟨before, after, rfl, hbefore, hafter⟩
            refine ⟨v :: before, after, rfl, fun u hu => ?_, hafter⟩
            rcases List.mem_cons.mp hu with rfl | hu
            · exact not_le.mp fun hle => hv ((hr u w).mpr hle)
            · exact hbefore u hu

/-- The first of the best of some values is the value of the first of the best. -/
theorem foremost_map {U : Type} {score : V → S} {f : U → V} {l : List U} {best : V}
    (h : Foremost score (l.map f) best) : ∃ u, f u = best ∧ Foremost (score ∘ f) l u := by
  rcases h with ⟨before, after, hl, hbefore, hafter⟩
  obtain ⟨front, rest, rfl, rfl, hrest⟩ := List.map_eq_append_iff.mp hl
  obtain ⟨u, back, rfl, rfl, rfl⟩ := List.map_eq_cons_iff.mp hrest
  exact ⟨u, rfl, front, back, rfl, fun v hv => hbefore _ (List.mem_map_of_mem hv),
    fun v hv => hafter _ (List.mem_map_of_mem hv)⟩

theorem Foremost.map {U : Type} {score : V → S} {f : U → V} {l : List U} {u : U}
    (h : Foremost (score ∘ f) l u) : Foremost score (l.map f) (f u) := by
  rcases h with ⟨before, after, rfl, hbefore, hafter⟩
  exact ⟨before.map f, after.map f, by rw [List.map_append, List.map_cons],
    List.forall_mem_map.mpr hbefore, List.forall_mem_map.mpr hafter⟩

/-- The first of the best passes a test exactly when everything that fails it is
    beaten by something that passes, or equalled by something before it. -/
theorem foremost_passes_iff {score : V → S} {l : List V} {best : V} (h : Foremost score l best)
    (passes : V → Prop) :
    passes best ↔ ∀ before v after, l = before ++ v :: after → ¬passes v →
      (∃ u ∈ before, passes u ∧ score v ≤ score u) ∨
        ∃ u ∈ after, passes u ∧ score v < score u := by
  constructor
  · rintro hpasses before v after hsplit hfails
    rcases h with ⟨front, back, hl, hfront, hback⟩
    have hne : v ≠ best := fun heq => hfails (heq ▸ hpasses)
    rcases List.append_eq_append_iff.mp (hsplit.symm.trans hl) with
      ⟨middle, hfront', hrest⟩ | ⟨middle, hbefore, hrest⟩
    · -- What fails stands before the best, or at its place.
      cases middle with
      | nil => exact absurd (List.cons.inj hrest).1 hne
      | cons u middle =>
          rcases List.cons.inj hrest with ⟨rfl, hafter⟩
          refine Or.inr ⟨best, ?_, hpasses, hfront v ?_⟩
          · rw [hafter]
            exact List.mem_append_right _ (List.mem_cons_self ..)
          · rw [hfront']
            exact List.mem_append_right _ (List.mem_cons_self ..)
    · cases middle with
      | nil => exact absurd (List.cons.inj hrest).1.symm hne
      | cons u middle =>
          rcases List.cons.inj hrest with ⟨rfl, hafter⟩
          refine Or.inl ⟨best, ?_, hpasses, hback v ?_⟩
          · rw [hbefore]
            exact List.mem_append_right _ (List.mem_cons_self ..)
          · rw [hafter]
            exact List.mem_append_right _ (List.mem_cons_self ..)
  · intro hbeaten
    by_contra hfails
    rcases h with ⟨before, after, hl, hbefore, hafter⟩
    rcases hbeaten before best after hl hfails with
      ⟨u, hu, -, hscore⟩ | ⟨u, hu, -, hscore⟩
    · exact absurd (hbefore u hu) (not_lt.mpr hscore)
    · exact absurd (hafter u hu) (not_le.mpr hscore)

end Core
