import SvmCourse.Esports.Plays

/-!
# Seeding

In a bracket with standard seeding the best seed meets the worst one in the
first round, the second best the second worst, and so on, so that the better
half of the players is left after every round if nobody loses to a worse seed.
The service seats the players in their order instead, the first next to the
second. Both come to the same for two players only.

Seeds are counted from zero here.

## Main definitions

* `remaining`: The players who have not lost.
* `StandardSeeding`: Standard seeding of a bracket.

## Theorems

* `standardSeeding_iff`: When the generated bracket has it.
-/

namespace SvmCourse

namespace Esports

open Core

/-- The players who have not lost any of the games. -/
def remaining (ids : List String) (played : List Game) : List String :=
  ids.filter fun id => id ∉ played.map Game.loser

/-- The winner has the better seed. -/
def BetterWins (ids : List String) (g : Game) : Prop := ids.idxOf g.winner < ids.idxOf g.loser

/-- The match is between the two, in either order. -/
def BracketMatch.Pairs (m : BracketMatch) (a b : Option String) : Prop :=
  m.player1Id = a ∧ m.player2Id = b ∨ m.player1Id = b ∧ m.player2Id = a

/-- Every seed meets its opposite in the first round. As long as the better
    seeds win, two to some power players are the best ones when so many are
    left. The first two seeds meet in the last round only. -/
structure StandardSeeding (bracket : Bracket) (k : Nat) (ids : List String) : Prop where
  firstRound : ∀ i < ids.length, ∃ j m, bracket.matchAt 0 j = some m ∧
    m.Pairs ids[i]? ids[ids.length - 1 - i]?
  best : ∀ m ≤ k, ∀ played state, Play bracket played state → (∀ g ∈ played, BetterWins ids g) →
    (remaining ids played).length = 2 ^ m → remaining ids played = ids.take (2 ^ m)
  final : ∀ played state, Play bracket played state → ∀ a b, ids[0]? = some a →
    ids[1]? = some b → ∀ g ∈ played, g.Has a → g.Has b → g.playedMatch.matchId.round = k

section Seeding

variable {ids : List String} {hex : BracketHex} {bracketType : BracketType}

/-- The players are seated in their order. -/
theorem firstRound_players (hnamed : ∀ id ∈ ids, id ≠ "") {j : Nat} {m : BracketMatch}
    (h : (generateBracketStructure bracketType hex ids).matchAt 0 j = some m) :
    m.player1Id = ids[2 * j]? ∧ m.player2Id = ids[2 * j + 1]? := by
  rw [generate_eq] at h
  rcases slot_of_matchAt h with ⟨hslot, rfl⟩
  exact (seated_generated hex hnamed).first j hslot

/-- With four players or more the first seed meets the second one, and not the
    last. -/
theorem not_standardSeeding {k : Nat} (hk : 2 ≤ k) (hlength : ids.length = 2 ^ k)
    (hids : ids.Nodup) (hnamed : ∀ id ∈ ids, id ≠ "") :
    ¬StandardSeeding (generateBracketStructure bracketType hex ids) k ids := by
  intro h
  have heven : 2 ^ k = 2 * 2 ^ (k - 1) := by
    rw [← Nat.pow_succ']
    congr 1
    omega
  have hlarge : 2 ^ 1 ≤ 2 ^ (k - 1) := Nat.pow_le_pow_right (by omega) (by omega)
  have hget : ∀ i (hi : i < ids.length), ids[i]? = some ids[i] := fun i hi =>
    List.getElem?_eq_getElem hi
  rcases h.firstRound 0 (by omega) with ⟨j, m, hm, hpairs⟩
  have hplayers := firstRound_players hnamed hm
  rw [hget 0 (by omega), hget (ids.length - 1 - 0) (by omega)] at hpairs
  -- One match would have the first place and the last one for its seats.
  rcases hpairs with ⟨h1, h2⟩ | ⟨h1, h2⟩
  · have hzero := place_unique hids (hplayers.1.symm.trans h1) (hget 0 (by omega))
    have hlast := place_unique hids (hplayers.2.symm.trans h2)
      (hget (ids.length - 1 - 0) (by omega))
    omega
  · -- The first seat of a match has an even number, and the last place is odd.
    have hlast := place_unique hids (hplayers.1.symm.trans h1)
      (hget (ids.length - 1 - 0) (by omega))
    omega

/-- The best seed is left if the better seeds win. -/
theorem best_remains {best : String} {rest : List String} {played : List Game}
    (h : ∀ g ∈ played, BetterWins (best :: rest) g) : best ∉ played.map Game.loser := by
  intro hmem
  rcases List.mem_map.mp hmem with ⟨g, hg, hloser⟩
  have hlt := h g hg
  unfold BetterWins at hlt
  rw [hloser, List.idxOf_cons_self] at hlt
  omega

theorem remaining_cons {p : String} {rest : List String} {played : List Game}
    (h : p ∉ played.map Game.loser) :
    remaining (p :: rest) played = p :: remaining rest played :=
  List.filter_cons_of_pos (decide_eq_true h)

/-- Two players are seeded the standard way. -/
theorem standardSeeding_two (hlength : ids.length = 2) (hids : ids.Nodup)
    (hnamed : ∀ id ∈ ids, id ≠ "") :
    StandardSeeding (generateBracketStructure bracketType hex ids) 1 ids := by
  have hrounds : numRounds ids.length = 1 := by
    rw [hlength]
    exact Nat.clog_pow 2 1 (by omega)
  refine ⟨fun i hi => ?_, fun m hm played state _ hbetter hleft => ?_,
    fun played state hplay a b _ _ g hg _ _ => ?_⟩
  · have hslot : IsSlot (generatedSheet hex ids).rounds 0 0 := by
      change IsSlot (numRounds ids.length) 0 0
      rw [hrounds]
      exact ⟨Nat.zero_lt_one, Nat.zero_lt_one⟩
    have hplayers := (seated_generated hex hnamed).first 0 hslot
    refine ⟨0, (generatedSheet hex ids).matchOf 0 0, ?_, ?_⟩
    · rw [generate_eq, matchAt_slot hslot]
    · obtain rfl | rfl : i = 0 ∨ i = 1 := by omega
      · rw [hlength]
        exact .inl hplayers
      · rw [hlength]
        exact .inr hplayers
  · obtain ⟨a, b, rfl⟩ := List.length_eq_two.mp hlength
    rw [remaining_cons (best_remains hbetter)] at hleft ⊢
    have hsub : (remaining [b] played).Sublist [b] := List.filter_sublist
    obtain rfl | rfl : m = 0 ∨ m = 1 := by omega
    · -- The other one has lost.
      rw [List.length_cons, Nat.pow_zero, Nat.add_eq_right, List.length_eq_zero_iff] at hleft
      rw [hleft]
      rfl
    · -- Nobody has lost.
      rw [hsub.eq_of_length (by simpa using hleft)]
      rfl
  · have hround := ((play_kept hids hnamed hplay).sound g hg).round
    omega

/-- A power of two players are seeded the standard way if and only if there are
    two of them. -/
theorem standardSeeding_iff (bracketType : BracketType) (hex : BracketHex) (ids : List String)
    (k : Nat) (hk : 1 ≤ k) (hlength : ids.length = 2 ^ k) (hids : ids.Nodup)
    (hnamed : ∀ id ∈ ids, id ≠ "") :
    StandardSeeding (generateBracketStructure bracketType hex ids) k ids ↔ k = 1 := by
  constructor
  · intro h
    by_contra hne
    exact not_standardSeeding (by omega) hlength hids hnamed h
  · rintro rfl
    exact standardSeeding_two hlength hids hnamed

end Seeding

/-- Two players, seeded the standard way. -/
theorem standardSeeding_iff_two :
    StandardSeeding (generateBracketStructure .SINGLE_ELIMINATION (fun _ _ => "m") ["a", "b"]) 1
      ["a", "b"] :=
  (standardSeeding_iff .SINGLE_ELIMINATION (fun _ _ => "m") ["a", "b"] 1 (by decide) rfl
    (by decide) (by decide)).mpr rfl

/-- Of four players the first one does not meet the last one, but the second. -/
theorem not_standardSeeding_four :
    ¬StandardSeeding (generateBracketStructure .SINGLE_ELIMINATION (fun _ _ => "m")
      ["a", "b", "c", "d"]) 2 ["a", "b", "c", "d"] := by
  intro h
  have hround : (generateBracketStructure .SINGLE_ELIMINATION (fun _ _ => "m")
      ["a", "b", "c", "d"]).rounds[0]? = some ⟨1,
        [⟨⟨1, 1, "m"⟩, some "a", some "b", none, .pending⟩,
          ⟨⟨1, 2, "m"⟩, some "c", some "d", none, .pending⟩]⟩ := by
    decide
  -- The first of four should meet the last.
  rcases h.firstRound 0 (by decide) with ⟨j, m, hm, hpairs⟩
  unfold Bracket.matchAt at hm
  rw [hround, Option.bind_some] at hm
  have hmem := List.mem_of_getElem? hm
  rw [List.mem_pair] at hmem
  unfold BracketMatch.Pairs at hpairs
  rcases hmem with rfl | rfl <;> revert hpairs <;> decide

end Esports

end SvmCourse
