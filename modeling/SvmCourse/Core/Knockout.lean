import Mathlib.Data.List.Nodup
import Mathlib.Data.List.Basic
import Mathlib.Tactic.Common
import Mathlib.Tactic.Ring

/-!
# Knockouts

A perfect knockout: two to some power entrants, each match between the winners
of two matches of the round before, one left at the end. Who wins is a
parameter, and a knockout is these data together with the proof that the
entrants are different.

A match is a round and a position in it. The entrants below a position of a
round are a block of consecutive ones, so players at different positions come
from different blocks. This is where all the counting comes from: a round
leaves each player at one position at most, whoever loses is gone, and so
every player but one loses exactly once.

## Main definitions

* `IsSlot`: The matches of a bracket with so many rounds.
* `roundSlots`, `slotsBefore`: The matches of one round and of the first ones.
* `Knockout`: Entrants and who wins.
* `survivor`, `loser`: Who is left after some rounds, and who loses a match.
* `champion`: Who is left at the end.

## Theorems

* `length_slotsBefore`: Every match sends one player home.
* `survivor_inj`: A player stands at one position of a round.
* `loser_inj`: Nobody loses twice.
* `champion_ne_loser`: The champion loses no match.
* `champion_or_loser`: Everybody else loses one.
-/

namespace Core

/-! ### The matches of a bracket -/

/-- A match of a bracket with `k` rounds, by round and position from zero. -/
def IsSlot (k r j : Nat) : Prop := r < k ∧ j < 2 ^ (k - 1 - r)

instance (k r j : Nat) : Decidable (IsSlot k r j) :=
  inferInstanceAs (Decidable (r < k ∧ j < 2 ^ (k - 1 - r)))

theorem two_pow_sub {k r : Nat} (h : r < k) : 2 ^ (k - r) = 2 * 2 ^ (k - 1 - r) := by
  have hsub : k - r = k - 1 - r + 1 := by omega
  rw [hsub, Nat.pow_succ, Nat.mul_comm]

/-- The positions of a round. -/
def roundSlots (k r : Nat) : List (Nat × Nat) :=
  (List.range (2 ^ (k - 1 - r))).map fun j => (r, j)

/-- The matches of the first rounds. -/
def slotsBefore (k rounds : Nat) : List (Nat × Nat) :=
  (List.range rounds).flatMap (roundSlots k)

theorem mem_roundSlots {k r : Nat} {m : Nat × Nat} :
    m ∈ roundSlots k r ↔ m.1 = r ∧ m.2 < 2 ^ (k - 1 - r) := by
  unfold roundSlots
  constructor
  · intro h
    rcases List.mem_map.mp h with ⟨j, hj, rfl⟩
    exact ⟨rfl, List.mem_range.mp hj⟩
  · intro h
    exact List.mem_map.mpr ⟨m.2, List.mem_range.mpr h.2, Prod.ext h.1.symm rfl⟩

theorem mem_slotsBefore {k rounds : Nat} {m : Nat × Nat} :
    m ∈ slotsBefore k rounds ↔ m.1 < rounds ∧ m.2 < 2 ^ (k - 1 - m.1) := by
  unfold slotsBefore
  simp only [List.mem_flatMap, List.mem_range, mem_roundSlots]
  constructor
  · intro h
    rcases h with ⟨r, hr, hm, hj⟩
    rw [hm]
    exact ⟨hr, hj⟩
  · intro h
    exact ⟨m.1, h.1, rfl, h.2⟩

theorem slotsBefore_succ (k rounds : Nat) :
    slotsBefore k (rounds + 1) = slotsBefore k rounds ++ roundSlots k rounds := by
  unfold slotsBefore
  rw [List.range_succ, List.flatMap_append, List.flatMap_singleton]

theorem slotsBefore_nodup (k rounds : Nat) : (slotsBefore k rounds).Nodup := by
  induction rounds with
  | zero => exact List.nodup_nil
  | succ rounds ih =>
      rw [slotsBefore_succ, List.nodup_append]
      refine ⟨ih, ?_, fun m hm m' hm' => ?_⟩
      · exact List.nodup_range.map fun j j' h => congrArg Prod.snd h
      · have hlt := (mem_slotsBefore.mp hm).1
        have heq := (mem_roundSlots.mp hm').1
        intro h
        rw [h, heq] at hlt
        omega

/-- Every round has half as many matches as there are players in it. -/
theorem length_slotsBefore {k rounds : Nat} (h : rounds ≤ k) :
    (slotsBefore k rounds).length + 2 ^ (k - rounds) = 2 ^ k := by
  induction rounds with
  | zero => simp [slotsBefore]
  | succ rounds ih =>
      have hround : (roundSlots k rounds).length = 2 ^ (k - 1 - rounds) := by
        simp [roundSlots]
      have hhalf := two_pow_sub (k := k) (r := rounds) (by omega)
      have hsub : k - (rounds + 1) = k - 1 - rounds := by omega
      have hbefore := ih (by omega)
      rw [slotsBefore_succ, List.length_append, hround, hsub]
      omega

/-! ### Who wins -/

/-- Two to the power of `rounds` different entrants, and whether the first of
    the two players wins a match. -/
structure Knockout (α : Type) where
  rounds : Nat
  entrant : Nat → α
  first : Nat → Nat → α → α → Bool
  distinct : ∀ i < 2 ^ rounds, ∀ j < 2 ^ rounds, entrant i = entrant j → i = j

namespace Knockout

variable {α : Type} (K : Knockout α)

/-- The player at a position once so many rounds are played. -/
def survivor : Nat → Nat → α
  | 0, i => K.entrant i
  | r + 1, j =>
    if K.first r j (survivor r (2 * j)) (survivor r (2 * j + 1)) then survivor r (2 * j)
    else survivor r (2 * j + 1)

/-- The player who loses a match. -/
def loser (r j : Nat) : α :=
  if K.first r j (K.survivor r (2 * j)) (K.survivor r (2 * j + 1)) then K.survivor r (2 * j + 1)
  else K.survivor r (2 * j)

/-- Who survives all rounds. -/
def champion : α := K.survivor K.rounds 0

/-- A match is between its winner and its loser. -/
theorem survivor_succ (r j : Nat) :
    (K.survivor (r + 1) j = K.survivor r (2 * j) ∧ K.loser r j = K.survivor r (2 * j + 1)) ∨
    (K.survivor (r + 1) j = K.survivor r (2 * j + 1) ∧ K.loser r j = K.survivor r (2 * j)) := by
  unfold loser
  rw [survivor]
  by_cases h : K.first r j (K.survivor r (2 * j)) (K.survivor r (2 * j + 1)) = true
  · rw [if_pos h, if_pos h]
    exact Or.inl ⟨rfl, rfl⟩
  · rw [if_neg h, if_neg h]
    exact Or.inr ⟨rfl, rfl⟩

/-- The player at a position is one of the block of entrants below it. -/
theorem survivor_entrant (r j : Nat) :
    ∃ i, j * 2 ^ r ≤ i ∧ i < (j + 1) * 2 ^ r ∧ K.survivor r j = K.entrant i := by
  induction r generalizing j with
  | zero => exact ⟨j, by omega, by omega, rfl⟩
  | succ r ih =>
      have hpow : 2 ^ (r + 1) = 2 * 2 ^ r := by
        rw [Nat.pow_succ, Nat.mul_comm]
      -- The two blocks below the position make up its own.
      have hsplit : j * 2 ^ (r + 1) = 2 * j * 2 ^ r ∧
          (j + 1) * 2 ^ (r + 1) = (2 * j + 1 + 1) * 2 ^ r := by
        rw [hpow]
        constructor <;> ring
      have hmid : 2 * j * 2 ^ r ≤ (2 * j + 1) * 2 ^ r ∧
          (2 * j + 1) * 2 ^ r ≤ (2 * j + 1 + 1) * 2 ^ r :=
        ⟨Nat.mul_le_mul_right _ (by omega), Nat.mul_le_mul_right _ (by omega)⟩
      rcases K.survivor_succ r j with ⟨h, -⟩ | ⟨h, -⟩
      · rcases ih (2 * j) with ⟨i, hlow, hhigh, hi⟩
        exact ⟨i, by omega, by omega, h.trans hi⟩
      · rcases ih (2 * j + 1) with ⟨i, hlow, hhigh, hi⟩
        exact ⟨i, by omega, by omega, h.trans hi⟩

theorem survivor_mem {r j : Nat} (hr : r ≤ K.rounds) (hj : j < 2 ^ (K.rounds - r)) :
    ∃ i < 2 ^ K.rounds, K.survivor r j = K.entrant i := by
  rcases K.survivor_entrant r j with ⟨i, -, hhigh, hi⟩
  have hsize : 2 ^ K.rounds = 2 ^ (K.rounds - r) * 2 ^ r := by
    rw [← Nat.pow_add]
    congr 1
    omega
  have hle : (j + 1) * 2 ^ r ≤ 2 ^ (K.rounds - r) * 2 ^ r := Nat.mul_le_mul_right _ hj
  exact ⟨i, by omega, hi⟩

/-- A player stands at one position of a round. -/
theorem survivor_inj {r j j' : Nat} (hr : r ≤ K.rounds) (hj : j < 2 ^ (K.rounds - r))
    (hj' : j' < 2 ^ (K.rounds - r)) (h : K.survivor r j = K.survivor r j') : j = j' := by
  rcases K.survivor_entrant r j with ⟨i, hlow, hhigh, hi⟩
  rcases K.survivor_entrant r j' with ⟨i', hlow', hhigh', hi'⟩
  have hsize : 2 ^ K.rounds = 2 ^ (K.rounds - r) * 2 ^ r := by
    rw [← Nat.pow_add]
    congr 1
    omega
  have hbound : ∀ p < 2 ^ (K.rounds - r), (p + 1) * 2 ^ r ≤ 2 ^ K.rounds := by
    intro p hp
    rw [hsize]
    exact Nat.mul_le_mul_right _ hp
  have hb := hbound j hj
  have hb' := hbound j' hj'
  have hsame : i = i' := by
    refine K.distinct i (by omega) i' (by omega) ?_
    rw [← hi, ← hi', h]
  -- Different blocks have no entrant in common.
  have hle : ∀ p q, p * 2 ^ r ≤ i → i < (q + 1) * 2 ^ r → p ≤ q := by
    intro p q hp hq
    by_contra hlt
    have hmul : (q + 1) * 2 ^ r ≤ p * 2 ^ r := Nat.mul_le_mul_right _ (by omega)
    omega
  subst hsame
  have hjj := hle j j' hlow hhigh'
  have hjj' := hle j' j hlow' hhigh
  omega

/-- Whoever is left after a round was left after the round before. -/
theorem survivor_before {r j : Nat} (hj : IsSlot K.rounds r j) :
    ∃ i < 2 ^ (K.rounds - r), K.survivor (r + 1) j = K.survivor r i := by
  have hhalf := two_pow_sub hj.1
  have hlt := hj.2
  rcases K.survivor_succ r j with ⟨h, -⟩ | ⟨h, -⟩
  · exact ⟨2 * j, by omega, h⟩
  · exact ⟨2 * j + 1, by omega, h⟩

/-- The loser of a match does not survive its round. -/
theorem loser_ne_survivor_succ {r j i : Nat} (hj : IsSlot K.rounds r j)
    (hi : i < 2 ^ (K.rounds - (r + 1))) : K.loser r j ≠ K.survivor (r + 1) i := by
  have hhalf := two_pow_sub hj.1
  have hlt := hj.2
  have hi' : i < 2 ^ (K.rounds - 1 - r) := by
    have hsub : K.rounds - (r + 1) = K.rounds - 1 - r := by omega
    rwa [hsub] at hi
  have hle : r ≤ K.rounds := Nat.le_of_lt hj.1
  intro h
  rcases K.survivor_succ r j with ⟨hw, hl⟩ | ⟨hw, hl⟩ <;>
    rcases K.survivor_succ r i with ⟨hw', -⟩ | ⟨hw', -⟩ <;>
      rw [hl, hw'] at h
  all_goals
    have hpos := K.survivor_inj hle (by omega) (by omega) h
  · omega
  · -- The same match, whose winner is the other player.
    obtain rfl : j = i := by omega
    have hboth := hw.symm.trans hw'
    have := K.survivor_inj hle (by omega) (by omega) hboth
    omega
  · obtain rfl : j = i := by omega
    have hboth := hw.symm.trans hw'
    have := K.survivor_inj hle (by omega) (by omega) hboth
    omega
  · omega

/-- Whoever loses is gone for good. -/
theorem loser_ne_survivor {r r' j i : Nat} (hj : IsSlot K.rounds r j) (hr : r < r')
    (hr' : r' ≤ K.rounds) (hi : i < 2 ^ (K.rounds - r')) : K.loser r j ≠ K.survivor r' i := by
  induction r' generalizing i with
  | zero => omega
  | succ n ih =>
      by_cases hn : r = n
      · subst hn
        exact K.loser_ne_survivor_succ hj hi
      · have hsub : K.rounds - (n + 1) = K.rounds - 1 - n := by omega
        rw [hsub] at hi
        rcases K.survivor_before (r := n) (j := i) ⟨by omega, hi⟩ with ⟨i', hi', h⟩
        rw [h]
        exact ih (by omega) (by omega) hi'

/-- A loser was there before the match. -/
theorem loser_eq_survivor {r j : Nat} (hj : IsSlot K.rounds r j) :
    ∃ i < 2 ^ (K.rounds - r), i / 2 = j ∧ K.loser r j = K.survivor r i := by
  have hhalf := two_pow_sub hj.1
  have hlt := hj.2
  rcases K.survivor_succ r j with ⟨-, h⟩ | ⟨-, h⟩
  · exact ⟨2 * j + 1, by omega, by omega, h⟩
  · exact ⟨2 * j, by omega, by omega, h⟩

/-- Nobody loses twice. -/
theorem loser_inj {r r' j j' : Nat} (hj : IsSlot K.rounds r j) (hj' : IsSlot K.rounds r' j')
    (h : K.loser r j = K.loser r' j') : r = r' ∧ j = j' := by
  rcases K.loser_eq_survivor hj with ⟨i, hi, hhalf, hl⟩
  rcases K.loser_eq_survivor hj' with ⟨i', hi', hhalf', hl'⟩
  rcases Nat.lt_trichotomy r r' with hlt | rfl | hlt
  · exact absurd (h.trans hl') (K.loser_ne_survivor hj hlt (Nat.le_of_lt hj'.1) hi')
  · have hpos := K.survivor_inj (Nat.le_of_lt hj.1) hi hi' (hl.symm.trans (h.trans hl'))
    exact ⟨rfl, by omega⟩
  · exact absurd (h.symm.trans hl) (K.loser_ne_survivor hj' hlt (Nat.le_of_lt hj.1) hi)

theorem champion_ne_loser {r j : Nat} (hj : IsSlot K.rounds r j) : K.champion ≠ K.loser r j :=
  fun h => K.loser_ne_survivor hj hj.1 (Nat.le_refl _) (Nat.two_pow_pos _) h.symm

/-- An entrant is left after so many rounds, or has lost in one of them. -/
theorem survivor_or_loser {i : Nat} (hi : i < 2 ^ K.rounds) {r : Nat} (hr : r ≤ K.rounds) :
    (∃ j < 2 ^ (K.rounds - r), K.entrant i = K.survivor r j) ∨
      ∃ q < r, ∃ j, IsSlot K.rounds q j ∧ K.entrant i = K.loser q j := by
  -- On the round: whoever is left plays in it, and wins or loses.
  induction r with
  | zero => exact Or.inl ⟨i, hi, rfl⟩
  | succ r ih =>
      have hhalf := two_pow_sub (k := K.rounds) (r := r) (by omega)
      have hsub : K.rounds - (r + 1) = K.rounds - 1 - r := by omega
      rcases ih (by omega) with ⟨j, hj, h⟩ | ⟨q, hq, j, hslot, h⟩
      · have hslot : IsSlot K.rounds r (j / 2) := ⟨by omega, by omega⟩
        have hpos : j = 2 * (j / 2) ∨ j = 2 * (j / 2) + 1 := by omega
        rw [hsub]
        rcases K.survivor_succ r (j / 2) with ⟨hw, hl⟩ | ⟨hw, hl⟩ <;> rcases hpos with hj' | hj'
        · exact Or.inl ⟨j / 2, hslot.2, by rw [hw, ← hj', h]⟩
        · exact Or.inr ⟨r, by omega, j / 2, hslot, by rw [hl, ← hj', h]⟩
        · exact Or.inr ⟨r, by omega, j / 2, hslot, by rw [hl, ← hj', h]⟩
        · exact Or.inl ⟨j / 2, hslot.2, by rw [hw, ← hj', h]⟩
      · exact Or.inr ⟨q, by omega, j, hslot, h⟩

/-- Everybody but the champion loses a match. -/
theorem champion_or_loser {i : Nat} (hi : i < 2 ^ K.rounds) :
    K.entrant i = K.champion ∨ ∃ r j, IsSlot K.rounds r j ∧ K.entrant i = K.loser r j := by
  rcases K.survivor_or_loser hi (Nat.le_refl K.rounds) with ⟨j, hj, h⟩ | ⟨r, -, j, hslot, h⟩
  · obtain rfl : j = 0 := by
      rw [Nat.sub_self] at hj
      omega
    exact Or.inl h
  · exact Or.inr ⟨r, j, hslot, h⟩

end Knockout

end Core
