import Mathlib.Data.List.Basic
import Mathlib.Tactic.Common

/-!
# Finding One of Several

A lookup that finds one of the rows that match, and which one is decided outside.
The choice is a number, so every row that matches is found for some number. A
test of what was found has the same answer for every choice only when all rows
that match pass it, or none does.

A condition of a lookup whose value is missing restricts nothing.

## Main definitions

* `pick`: The row that is found.
* `restricts`: A condition on one column.

## Theorems

* `exists_pick`: Every row is found for some choice.
* `any_pick_iff`: When a test of what is found always passes.
* `not_any_pick_iff`: When it never passes.
-/

namespace Core

variable {V : Type}

/-- The row that is chosen, or none if there are no rows. -/
def pick (rows : List V) (choice : Nat) : Option V := rows[choice % rows.length]?

theorem mem_of_pick {rows : List V} {choice : Nat} {v : V} (h : pick rows choice = some v) :
    v ∈ rows :=
  List.mem_of_getElem? h

theorem exists_pick {rows : List V} {v : V} (h : v ∈ rows) :
    ∃ choice, pick rows choice = some v := by
  rcases List.mem_iff_getElem?.mp h with ⟨place, hplace⟩
  rcases List.getElem?_eq_some_iff.mp hplace with ⟨hlt, -⟩
  exact ⟨place, by rw [pick, Nat.mod_eq_of_lt hlt, hplace]⟩

theorem pick_isSome {rows : List V} (h : rows ≠ []) (choice : Nat) :
    ∃ v ∈ rows, pick rows choice = some v := by
  have hlt : choice % rows.length < rows.length :=
    Nat.mod_lt _ (List.length_pos_iff.mpr h)
  exact ⟨_, List.getElem_mem hlt, List.getElem?_eq_getElem hlt⟩

/-- A test always passes when there is a row and every row passes it. -/
theorem any_pick_iff {rows : List V} {p : V → Bool} :
    (∀ choice, (pick rows choice).any p = true) ↔ rows ≠ [] ∧ ∀ v ∈ rows, p v = true := by
  constructor
  · intro h
    refine ⟨?_, fun v hv => ?_⟩
    · -- Nothing is found in no rows, and nothing passes no test.
      rintro rfl
      exact Bool.false_ne_true (h 0)
    · rcases exists_pick hv with ⟨choice, hchoice⟩
      have hpass := h choice
      rwa [hchoice, Option.any_some] at hpass
  · rintro ⟨hne, h⟩ choice
    rcases pick_isSome hne choice with ⟨v, hv, hpick⟩
    rw [hpick, Option.any_some]
    exact h v hv

/-- A test never passes when no row passes it. -/
theorem not_any_pick_iff {rows : List V} {p : V → Bool} :
    (∀ choice, (pick rows choice).any p = false) ↔ ∀ v ∈ rows, p v = false := by
  constructor
  · intro h v hv
    rcases exists_pick hv with ⟨choice, hchoice⟩
    have hfail := h choice
    rwa [hchoice, Option.any_some] at hfail
  · intro h choice
    cases hpick : pick rows choice with
    | none => rfl
    | some v =>
        rw [Option.any_some]
        exact h v (mem_of_pick hpick)

/-- A condition on a column. Without a value it restricts nothing. -/
def restricts {A : Type} [DecidableEq A] (value : Option A) (column : Option A) : Bool :=
  value.all fun a => column = some a

theorem restricts_none {A : Type} [DecidableEq A] (column : Option A) :
    restricts none column = true := rfl

theorem restricts_some {A : Type} [DecidableEq A] {a : A} {column : Option A} :
    restricts (some a) column = true ↔ column = some a := by
  rw [restricts, Option.all_some, decide_eq_true_eq]

end Core
