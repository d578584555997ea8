import Mathlib.Algebra.Order.Group.Defs
import Mathlib.Algebra.Order.Monoid.Unbundled.Basic
import Mathlib.Tactic.Common

/-!
# Throttling

Attempts that succeed or fail, one after another. Once so many have failed in a
row, the next one has to wait. Failures count until an attempt succeeds, so after
the first wait each further failure brings another.

In a window that is not longer than the wait, and in which no attempt succeeds,
the failures are all of one row. As soon as the limit is reached, the next attempt
comes after the window. So there are not more of them than the limit, wherever the
window begins.

A log has its latest entry first.

## Main definitions

* `streak`: The failures since the last success.
* `Throttled`: After so many failures in a row, the next attempt waits.
* `failuresIn`: The failures in a window.

## Theorems

* `failuresIn_le_streak`: Failures in a window without success are of one row.
* `failuresIn_le`: There are not more of them than the limit.
-/

namespace Core

namespace Throttle

/-- When an attempt was made, and whether it succeeded. -/
structure Entry (T : Type*) where
  time : T
  success : Bool
  deriving DecidableEq

variable {T : Type*} [LinearOrder T]

/-- The failures since the last success. -/
def streak : List (Entry T) → Nat
  | [] => 0
  | entry :: log => if entry.success then 0 else streak log + 1

/-- Entries come in the order of time. -/
def Ordered (log : List (Entry T)) : Prop :=
  log.Pairwise fun entry earlier => earlier.time ≤ entry.time

/-- In the window from one time until before another. -/
def Entry.within (entry : Entry T) (start stop : T) : Prop :=
  start ≤ entry.time ∧ entry.time < stop

instance (entry : Entry T) (start stop : T) : Decidable (entry.within start stop) :=
  inferInstanceAs (Decidable (_ ∧ _))

/-- The failures within a span. -/
def failuresIn (start stop : T) (log : List (Entry T)) : List (Entry T) :=
  log.filter fun entry => !entry.success && entry.within start stop

/-- Whenever as many attempts have failed in a row as the limit says, the next one
    comes when the wait is over. -/
def Throttled [Add T] (limit : Nat) (wait : T) : List (Entry T) → Prop
  | [] => True
  | entry :: log => (limit ≤ streak log → ∀ last ∈ log.head?, last.time + wait ≤ entry.time) ∧
      Throttled limit wait log

variable {start stop : T} {log : List (Entry T)}

/-- There is nothing in a window that begins later. -/
theorem failuresIn_eq_nil (h : ∀ entry ∈ log, entry.time < start) :
    failuresIn start stop log = [] := by
  refine List.filter_eq_nil_iff.mpr fun entry hentry hin => ?_
  rw [Bool.and_eq_true, decide_eq_true_iff] at hin
  exact absurd hin.2.1 (h entry hentry).not_ge

/-- In a window that lasts on and has no success, the failures are of one row. -/
theorem failuresIn_le_streak (hordered : Ordered log) (hbefore : ∀ entry ∈ log, entry.time < stop)
    (hnone : ∀ entry ∈ log, entry.success = true → ¬entry.within start stop) :
    (failuresIn start stop log).length ≤ streak log := by
  induction log with
  | nil => exact Nat.le_refl 0
  | cons entry log ih =>
      obtain ⟨hearlier, hrest⟩ := List.pairwise_cons.mp hordered
      rw [streak]
      by_cases hsuccess : entry.success = true
      · -- The success is before the window, and so is what is before it.
        have hless : entry.time < start := by
          by_contra hle
          exact hnone entry (List.mem_cons_self ..) hsuccess
            ⟨not_lt.mp hle, hbefore entry (List.mem_cons_self ..)⟩
        have hall : ∀ e ∈ entry :: log, e.time < start :=
          List.forall_mem_cons.mpr ⟨hless, fun e he => (hearlier e he).trans_lt hless⟩
        rw [failuresIn_eq_nil hall]
        exact Nat.zero_le _
      · -- A failure adds one to the row, and at most one to the window.
        have hlog := ih hrest (fun e he => hbefore e (List.mem_cons_of_mem _ he))
          fun e he => hnone e (List.mem_cons_of_mem _ he)
        rw [if_neg hsuccess, failuresIn, List.filter_cons]
        split
        · exact Nat.succ_le_succ hlog
        · exact Nat.le_succ_of_le hlog

/-- There are not more failures in a window without success than the limit. -/
theorem failuresIn_le [AddCommGroup T] [IsOrderedAddMonoid T] {limit : Nat} {wait : T}
    (hlimit : 0 < limit) (hordered : Ordered log) (hthrottled : Throttled limit wait log)
    (hnone : ∀ entry ∈ log, entry.success = true → ¬entry.within start (start + wait)) :
    (failuresIn start (start + wait) log).length ≤ limit := by
  induction log with
  | nil => exact Nat.zero_le _
  | cons entry log ih =>
      obtain ⟨hearlier, hrest⟩ := List.pairwise_cons.mp hordered
      have hrestNone : ∀ e ∈ log, e.success = true → ¬e.within start (start + wait) :=
        fun e he => hnone e (List.mem_cons_of_mem _ he)
      have hlog := ih hrest hthrottled.2 hrestNone
      rw [failuresIn, List.filter_cons]
      split
      · next hin =>
          rw [Bool.and_eq_true, decide_eq_true_iff] at hin
          -- The window lasts until the entry, so what failed in it failed in a row.
          have hbefore : ∀ e ∈ log, e.time < start + wait :=
            fun e he => (hearlier e he).trans_lt hin.2.2
          have hstreak := failuresIn_le_streak hrest hbefore hrestNone
          by_contra hmore
          -- One more than the limit, so before this one the limit was reached.
          have hfull : limit ≤ (failuresIn start (start + wait) log).length := by
            rw [List.length_cons] at hmore
            exact Nat.le_of_lt_succ (not_le.mp hmore)
          have hwait := hthrottled.1 (hfull.trans hstreak)
          cases log with
          | nil => exact absurd (hlimit.trans_le hfull) (Nat.lt_irrefl 0)
          | cons last log =>
              -- The last failure was in the window, or none of them was.
              have hlast : start ≤ last.time := by
                by_contra hless
                have hall : ∀ e ∈ last :: log, e.time < start := List.forall_mem_cons.mpr
                  ⟨not_le.mp hless, fun e he =>
                    ((List.pairwise_cons.mp hrest).1 e he).trans_lt (not_le.mp hless)⟩
                rw [failuresIn_eq_nil hall] at hfull
                exact absurd (hlimit.trans_le hfull) (Nat.lt_irrefl 0)
              -- After the limit the wait leads out of the window.
              have hlate : start + wait ≤ entry.time :=
                (add_le_add_left hlast wait).trans (hwait last rfl)
              exact absurd hin.2.2 hlate.not_gt
      · exact hlog

end Throttle

end Core
