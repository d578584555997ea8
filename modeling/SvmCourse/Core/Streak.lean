import Mathlib.Data.List.Infix

/-!
# Streaks

What a counter that goes up with each failure and back to nothing with each
success says about the outcomes it has been shown.

## Main definitions

* `streak`: What the counter has come to.

## Theorems

* `streak_snoc`: One outcome more.
* `le_streak_iff`: The counter has reached a number exactly when that many
  outcomes in a row, up to the last one, were failures.
-/

namespace Core

/-- The failures since the last success. -/
def streak (passed : List Bool) : Nat :=
  passed.foldl (fun failures ok => if ok then 0 else failures + 1) 0

theorem streak_snoc (passed : List Bool) (ok : Bool) :
    streak (passed ++ [ok]) = if ok then 0 else streak passed + 1 :=
  List.foldl_append

theorem le_streak_iff {n : Nat} {passed : List Bool} :
    n ≤ streak passed ↔ List.replicate n false <:+ passed := by
  induction passed using List.reverseRecOn generalizing n with
  | nil =>
      rw [List.suffix_nil, List.replicate_eq_nil_iff]
      exact Nat.le_zero
  | append_singleton passed ok ih =>
      rw [streak_snoc]
      cases n with
      | zero => exact ⟨fun _ => List.nil_suffix, fun _ => Nat.zero_le _⟩
      | succ n =>
          -- The last of the failures is the last outcome, the others came before.
          rw [List.replicate_succ', List.suffix_concat_iff]
          cases ok with
          | true => simp
          | false => simp [ih]

end Core
