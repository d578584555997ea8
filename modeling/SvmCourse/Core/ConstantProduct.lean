import Mathlib.Algebra.Order.Field.Basic
import Mathlib.Algebra.BigOperators.Group.List.Basic
import Mathlib.Tactic.FieldSimp
import Mathlib.Tactic.Linarith
import Mathlib.Tactic.Positivity
import Mathlib.Tactic.Ring

/-!
# Constant Product Exchanges

Two reserves, and a trade that leaves their product what it was, but for the
part of the input on which nothing is paid out. That part stays in the reserve,
so the product grows with every trade, and whoever comes back to where he
started in one token has lost in the other.

For the same reason a trade is worth more than its parts: what the first part
leaves in the reserve makes the second part dearer.

## Main definitions

* `output`: What is paid out for an input.
* `outputs`: What is paid out for several inputs, one after the other.

## Theorems

* `output_pos`, `output_lt`: Something is paid out, but not everything.
* `product_lt`: The product of the reserves grows.
* `outputs_lt`: Several inputs are worth less than one of the same size.
-/

namespace Core

namespace ConstantProduct

variable {K : Type*} [Field K] [LinearOrder K] [IsStrictOrderedRing K]

/-- What is paid out of the reserve `y` for an input of `a` to the reserve `x`,
    when `kept` is the part of the input that counts. -/
def output (kept x y a : K) : K := y * (kept * a) / (x + kept * a)

/-- What is paid out for several inputs, one after the other. -/
def outputs (kept : K) : K → K → List K → K
  | _, _, [] => 0
  | x, y, a :: parts =>
    output kept x y a + outputs kept (x + a) (y - output kept x y a) parts

variable {kept x y a b : K}

/-- What is left of the reserve. -/
theorem sub_output (hx : 0 ≤ x) (hkept : 0 < kept) (ha : 0 < a) :
    y - output kept x y a = y * x / (x + kept * a) := by
  have hden : x + kept * a ≠ 0 := by positivity
  rw [output]
  field_simp
  ring

theorem output_pos (hx : 0 ≤ x) (hy : 0 < y) (hkept : 0 < kept) (ha : 0 < a) :
    0 < output kept x y a := by
  unfold output
  positivity

theorem output_lt (hx : 0 < x) (hy : 0 < y) (hkept : 0 < kept) (ha : 0 < a) :
    output kept x y a < y := by
  rw [← sub_pos, sub_output hx.le hkept ha]
  positivity

theorem output_le (hx : 0 ≤ x) (hy : 0 ≤ y) (hkept : 0 < kept) (ha : 0 < a) :
    output kept x y a ≤ y := by
  rw [← sub_nonneg, sub_output hx hkept ha]
  positivity

/-- What does not count of the input makes the product grow. -/
theorem product_lt (hx : 0 < x) (hy : 0 < y) (hkept : 0 < kept) (hpart : kept < 1) (ha : 0 < a) :
    x * y < (x + a) * (y - output kept x y a) := by
  have hden : 0 < x + kept * a := by positivity
  rw [sub_output hx.le hkept ha, mul_div_assoc', lt_div_iff₀ hden]
  have hless : kept * a < a := mul_lt_of_lt_one_left ha hpart
  -- The denominator only has the part that counts, the reserve gets all of it.
  calc x * y * (x + kept * a) < x * y * (x + a) := by gcongr
    _ = (x + a) * (y * x) := by ring

/-- An input is worth more than its two parts. -/
theorem output_add_lt (hx : 0 < x) (hy : 0 < y) (hkept : 0 < kept) (hpart : kept < 1)
    (ha : 0 < a) (hb : 0 < b) :
    output kept x y a + output kept (x + a) (y - output kept x y a) b <
      output kept x y (a + b) := by
  have hab : 0 < a + b := add_pos ha hb
  have hxa : 0 < x + a := add_pos hx ha
  -- Compare what is left of the reserve.
  have hleft : y - output kept x y (a + b) <
      (y - output kept x y a) - output kept (x + a) (y - output kept x y a) b := by
    rw [sub_output hxa.le hkept hb, sub_output hx.le hkept ha, sub_output hx.le hkept hab]
    rw [div_mul_eq_mul_div, div_div, div_lt_div_iff₀ (by positivity) (by positivity)]
    -- What does not count of the first part is in the reserve for the second.
    have hextra : 0 < y * x * (kept * a * b * (1 - kept)) := by
      have := sub_pos.mpr hpart
      positivity
    calc y * x * ((x + kept * a) * (x + a + kept * b))
        < y * x * ((x + kept * a) * (x + a + kept * b)) +
            y * x * (kept * a * b * (1 - kept)) := lt_add_of_pos_right _ hextra
      _ = y * x * (x + a) * (x + kept * (a + b)) := by ring
  linarith

/-- Several inputs are worth no more than one of the same size, and less if
    there are two or more. -/
theorem outputs_le {parts : List K} (hx : 0 < x) (hy : 0 < y) (hkept : 0 < kept)
    (hpart : kept < 1) (hparts : ∀ c ∈ parts, 0 < c) (hsome : parts ≠ []) :
    outputs kept x y parts ≤ output kept x y parts.sum ∧
      (2 ≤ parts.length → outputs kept x y parts < output kept x y parts.sum) := by
  induction parts generalizing x y with
  | nil => exact absurd rfl hsome
  | cons a parts ih =>
      have ha := hparts a (List.mem_cons_self ..)
      -- One part is the whole, so the strict bound begins with two.
      cases parts with
      | nil => simp [outputs]
      | cons b rest =>
          have hleft := sub_pos.mpr (output_lt hx hy hkept ha)
          have hrest := ih (add_pos hx ha) hleft
            (fun c hc => hparts c (List.mem_cons_of_mem _ hc)) (List.cons_ne_nil _ _)
          have hb : 0 < (b :: rest).sum := List.sum_pos _
            (fun c hc => hparts c (List.mem_cons_of_mem _ hc)) (List.cons_ne_nil _ _)
          -- The rest is worth no more than one input of its size.
          have htwo := output_add_lt hx hy hkept hpart ha hb
          rw [outputs, List.sum_cons]
          have hlt := (add_le_add_right hrest.1 _).trans_lt htwo
          exact ⟨hlt.le, fun _ => hlt⟩

theorem outputs_lt {parts : List K} (hx : 0 < x) (hy : 0 < y) (hkept : 0 < kept)
    (hpart : kept < 1) (hparts : ∀ c ∈ parts, 0 < c) (htwo : 2 ≤ parts.length) :
    outputs kept x y parts < output kept x y parts.sum :=
  (outputs_le hx hy hkept hpart hparts (List.ne_nil_of_length_pos (by omega))).2 htwo

end ConstantProduct

end Core
