import SvmCourse.Core.Prog

/-!
# Programs Beside a Record

A program over one store runs over a larger one, of which it leaves the rest
alone. What the rest records then comes from the accesses that are made for it.

## Main definitions

* `beside`: The program over the store and a record.

## Theorems

* `ensures_beside`, `upholds_beside`: What a program does it does beside a
  record, which stays as it is.
* `eval_beside`: The same for the run in which no access is refused.
-/

namespace Core

namespace Prog

variable {σ γ ε α : Type} {C : Prop}

/-- The program on a state that has something beside it, which stays as it is. -/
def beside : Prog σ ε α → Prog (σ × γ) ε α
  | done a => done a
  | raise e => raise e
  | access act next fail =>
    access (fun s => ((act s.1).1, (act s.1).2, s.2)) (fun b => (next b).beside) fail.beside

theorem eval_beside (p : Prog σ ε α) (s : σ) (record : γ) :
    (p.beside : Prog (σ × γ) ε α).eval (s, record) = ((p.eval s).1, (p.eval s).2, record) := by
  induction p generalizing s with
  | done a => rfl
  | raise e => rfl
  | access act next fail ihn _ => exact ihn (act s).1 (act s).2

theorem ensures_beside {p : Prog σ ε α} {s : σ × γ} {Q : Except ε α → σ × γ → Prop}
    (h : p.Ensures C s.1 fun r t => Q r (t, s.2)) :
    (p.beside : Prog (σ × γ) ε α).Ensures C s Q := by
  induction p generalizing s with
  | done a => exact h
  | raise e => exact h
  | access act next fail ihn ihf => exact ⟨ihn _ h.1, fun hc => ihf (h.2 hc)⟩

theorem upholds_beside {p : Prog σ ε α} {I : σ → Prop} {R : α → Prop} (h : p.Upholds I R)
    (record : γ) :
    (p.beside : Prog (σ × γ) ε α).Upholds (fun s => I s.1 ∧ s.2 = record) R := by
  induction p with
  | done a => exact h
  | raise e => exact trivial
  | access act next fail ihn ihf =>
      exact ⟨fun s hs => ⟨⟨(h.1 s.1 hs.1).1, hs.2⟩, ihn _ (h.1 s.1 hs.1).2⟩, ihf h.2⟩

end Prog

end Core
