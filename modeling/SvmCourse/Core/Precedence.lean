import Mathlib.Tactic.Common

/-!
# Precedence in Lists

A list read from the front as a record of what happened. One element leads
another when the other does not show up before the one has. Nothing is said
about how often either shows up later, so a repetition does no harm once the
first has been seen.

## Main definitions

* `Leads`: One element shows up before another does.

## Theorems

* `leads_append`: Precedence in a list that goes on.
* `leads_iff_not_mem`: Where the one is missing, so is the other.
-/

namespace Core

variable {α : Type*} {a b x : α} {l m : List α}

/-- Whoever reads the list meets `a` before `b`, or meets no `b`. -/
def Leads (a b : α) : List α → Prop
  | [] => True
  | x :: l => x = a ∨ x ≠ b ∧ Leads a b l

theorem leads_nil : Leads a b [] := trivial

theorem leads_cons : Leads a b (x :: l) ↔ x = a ∨ x ≠ b ∧ Leads a b l := Iff.rfl

theorem leads_append : Leads a b (l ++ m) ↔ Leads a b l ∧ (a ∈ l ∨ Leads a b m) := by
  induction l with
  | nil => simp [leads_nil]
  | cons x l ih =>
      rw [List.cons_append, leads_cons, leads_cons, ih, List.mem_cons]
      by_cases hx : x = a
      · simp [hx]
      · simp [hx, Ne.symm hx, and_assoc]

/-- In a list without the one, leading means that the other is missing too. -/
theorem leads_iff_not_mem (h : a ∉ l) : Leads a b l ↔ b ∉ l := by
  induction l with
  | nil => simp [leads_nil]
  | cons x l ih =>
      rw [List.mem_cons, not_or] at h
      rw [leads_cons, ih h.2, List.mem_cons, not_or]
      simp [Ne.symm h.1, ne_comm]

theorem leads_of_not_mem (h : b ∉ l) : Leads a b l := by
  induction l with
  | nil => exact leads_nil
  | cons x l ih =>
      rw [List.mem_cons, not_or] at h
      exact Or.inr ⟨Ne.symm h.1, ih h.2⟩

instance decidableLeads [DecidableEq α] : (l : List α) → Decidable (Leads a b l)
  | [] => isTrue trivial
  | x :: l =>
    haveI : Decidable (Leads a b l) := decidableLeads l
    inferInstanceAs (Decidable (x = a ∨ x ≠ b ∧ Leads a b l))

end Core
