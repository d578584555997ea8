import Mathlib.Tactic.Common

/-!
# Machines

A machine answers one call after another. Its step takes the state and the
call and gives an answer and the next state, and everything the outside world
decides (a random id, what a network says) comes with the call. So a run is a
list of calls, and what holds of every run is what holds of every list.

`Along` speaks of every step of a run. Two properties of steps that an
invariant makes equivalent are equivalent along runs, which is how a condition
on the calls is shown to be exactly what a promise about runs needs.

## Main definitions

* `after`: The state a run ends in.
* `answers`: What it answers on the way.
* `Along`: A property of every step of a run.

## Theorems

* `after_invariant`: What every step keeps, every run keeps.
* `along_invariant`: A property that steps from good states have.
* `along_congr`: Properties that agree on good states agree along runs.
* `along_iff_of_mem`, `along_iff`: The same, when only steps with the property
  keep states good.
-/

namespace Core

namespace Machine

variable {σ κ ρ : Type*} {step : σ → κ → ρ × σ} {I : σ → Prop}

/-- The state after the calls. -/
def after (step : σ → κ → ρ × σ) (calls : List κ) (s : σ) : σ :=
  calls.foldl (fun t call => (step t call).2) s

theorem after_cons (call : κ) (calls : List κ) (s : σ) :
    after step (call :: calls) s = after step calls (step s call).2 := rfl

theorem after_append (calls calls' : List κ) (s : σ) :
    after step (calls ++ calls') s = after step calls' (after step calls s) :=
  List.foldl_append

/-- The calls of a run with their answers. -/
def answers (step : σ → κ → ρ × σ) : List κ → σ → List (κ × ρ)
  | [], _ => []
  | call :: calls, s => (call, (step s call).1) :: answers step calls (step s call).2

/-- A property of every step of a run: of the call, the state it finds, the
    answer, and the state it leaves. -/
def Along (step : σ → κ → ρ × σ) (P : κ → σ → ρ → σ → Prop) : List κ → σ → Prop
  | [], _ => True
  | call :: calls, s =>
    P call s (step s call).1 (step s call).2 ∧ Along step P calls (step s call).2

theorem along_append {P : κ → σ → ρ → σ → Prop} {calls calls' : List κ} {s : σ} :
    Along step P (calls ++ calls') s ↔
      Along step P calls s ∧ Along step P calls' (after step calls s) := by
  -- The second half begins where the first has ended.
  induction calls generalizing s with
  | nil => exact ⟨fun h => ⟨trivial, h⟩, fun h => h.2⟩
  | cons call calls ih =>
      rw [List.cons_append, Along, Along, ih, after_cons, and_assoc]

/-- What holds along a run holds where it ends, if it takes a step. -/
theorem after_of_along {Q : σ → Prop} {calls : List κ} {call : κ} {s : σ}
    (h : Along step (fun _ _ _ t => Q t) (calls ++ [call]) s) :
    Q (after step (calls ++ [call]) s) := by
  rw [along_append] at h
  rw [after_append]
  exact h.2.1

/-- What every call of a run has, wherever it is made. -/
theorem along_of_mem {P : κ → σ → ρ → σ → Prop} {calls : List κ}
    (h : ∀ call ∈ calls, ∀ s, P call s (step s call).1 (step s call).2) (s : σ) :
    Along step P calls s := by
  induction calls generalizing s with
  | nil => exact trivial
  | cons call calls ih =>
      exact ⟨h call (List.mem_cons_self ..) s,
        ih (fun call hcall => h call (List.mem_cons_of_mem _ hcall)) (step s call).2⟩

/-- What every step there may be has, every step of a run has. -/
theorem along_of_forall {P : κ → σ → ρ → σ → Prop}
    (h : ∀ call s, P call s (step s call).1 (step s call).2) (calls : List κ) (s : σ) :
    Along step P calls s :=
  along_of_mem (fun call _ => h call) s

theorem along_and {P Q : κ → σ → ρ → σ → Prop} {calls : List κ} {s : σ}
    (hP : Along step P calls s) (hQ : Along step Q calls s) :
    Along step (fun call s r t => P call s r t ∧ Q call s r t) calls s := by
  induction calls generalizing s with
  | nil => exact trivial
  | cons call calls ih => exact ⟨⟨hP.1, hQ.1⟩, ih hP.2 hQ.2⟩

theorem along_mono {P Q : κ → σ → ρ → σ → Prop} {calls : List κ} {s : σ}
    (h : ∀ call s r t, P call s r t → Q call s r t) (hP : Along step P calls s) :
    Along step Q calls s := by
  induction calls generalizing s with
  | nil => exact trivial
  | cons call calls ih => exact ⟨h _ _ _ _ hP.1, ih hP.2⟩

instance {P : κ → σ → ρ → σ → Prop} [∀ call s r t, Decidable (P call s r t)] :
    (calls : List κ) → (s : σ) → Decidable (Along step P calls s)
  | [], _ => isTrue trivial
  | call :: calls, s =>
    haveI : Decidable (Along step P calls (step s call).2) :=
      instDecidableAlong calls (step s call).2
    inferInstanceAs (Decidable (P call s (step s call).1 (step s call).2 ∧
      Along step P calls (step s call).2))

/-- What every step keeps that meets a condition where it is made, every run of
    such steps keeps. -/
theorem after_invariant {P : κ → σ → Prop} {calls : List κ} {s : σ}
    (hstep : ∀ call s, P call s → I s → I (step s call).2) (hs : I s)
    (hP : Along step (fun call s _ _ => P call s) calls s) : I (after step calls s) := by
  -- The condition is met in the state where the call is made.
  induction calls generalizing s with
  | nil => exact hs
  | cons call calls ih => exact ih (hstep call s hP.1 hs) hP.2

/-- A property that the steps from good states have, every step of a run has. -/
theorem along_invariant {P : κ → σ → Prop} {Q : κ → σ → ρ → σ → Prop} {calls : List κ} {s : σ}
    (hstep : ∀ call s, P call s → I s → Q call s (step s call).1 (step s call).2 ∧
      I (step s call).2)
    (hs : I s) (hP : Along step (fun call s _ _ => P call s) calls s) :
    Along step Q calls s := by
  induction calls generalizing s with
  | nil => exact trivial
  | cons call calls ih =>
      have hone := hstep call s hP.1 hs
      exact ⟨hone.1, ih hone.2 hP.2⟩

/-- Properties that agree on the steps from good states agree along runs. -/
theorem along_congr {P : κ → σ → Prop} {Q R : κ → σ → ρ → σ → Prop} {calls : List κ} {s : σ}
    (hQR : ∀ call s, P call s → I s →
      (Q call s (step s call).1 (step s call).2 ↔ R call s (step s call).1 (step s call).2))
    (hstep : ∀ call s, P call s → I s → I (step s call).2) (hs : I s)
    (hP : Along step (fun call s _ _ => P call s) calls s) :
    Along step Q calls s ↔ Along step R calls s := by
  induction calls generalizing s with
  | nil => exact Iff.rfl
  | cons call calls ih =>
      -- The first steps agree, and both runs go on from the same state.
      exact and_congr (hQR call s hP.1 hs) (ih (hstep call s hP.1 hs) hP.2)

/-- Properties that agree on the steps from good states agree along runs, also
    when it takes the property to stay among the good states. -/
theorem along_iff_of_mem {P : κ → Prop} {Q R : κ → σ → ρ → σ → Prop} {calls : List κ} {s : σ}
    (hQR : ∀ call s, P call → I s →
      (Q call s (step s call).1 (step s call).2 ↔ R call s (step s call).1 (step s call).2))
    (hstep : ∀ call s, P call → I s → R call s (step s call).1 (step s call).2 →
      I (step s call).2)
    (hs : I s) (hcalls : ∀ call ∈ calls, P call) : Along step Q calls s ↔ Along step R calls s := by
  induction calls generalizing s with
  | nil => exact Iff.rfl
  | cons call calls ih =>
      have hcall := hcalls call (List.mem_cons_self ..)
      rw [Along, Along, hQR call s hcall hs]
      -- Only after a step with the property is the next state good.
      exact and_congr_right fun hR => ih (hstep call s hcall hs hR)
        fun c hc => hcalls c (List.mem_cons_of_mem _ hc)

theorem along_iff {Q R : κ → σ → ρ → σ → Prop} {calls : List κ} {s : σ}
    (hQR : ∀ call s, I s →
      (Q call s (step s call).1 (step s call).2 ↔ R call s (step s call).1 (step s call).2))
    (hstep : ∀ call s, I s → R call s (step s call).1 (step s call).2 → I (step s call).2)
    (hs : I s) : Along step Q calls s ↔ Along step R calls s :=
  along_iff_of_mem (P := fun _ => True) (fun call s _ => hQR call s)
    (fun call s _ => hstep call s) hs fun _ _ => trivial

end Machine

end Core
