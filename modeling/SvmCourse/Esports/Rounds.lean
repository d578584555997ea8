import Mathlib.Data.List.GetD
import SvmCourse.Esports.Sheet

/-!
# Playing a Perfect Bracket

A bracket for two to some power players is a knockout. Here a knockout and the
list of the matches reported so far give a sheet: a round has its players once
every match of the round before was reported, and a match has its winner once
it was reported itself. The generated bracket is this sheet for no reports,
reporting matches that are not decided yet adds them to the list, and moving
winners on catches up with it. When everything is reported, the placements
read off the bracket are the rounds of the knockout: the champion first, and
whoever lost a match placed by the round of it.

## Main definitions

* `seatsFilled`: The round has its players.
* `progress`: The sheet of a knockout after some reports.
* `bracketKnockout`: The knockout of a list of players.
* `reportOf`: The result that the knockout gives a match.

## Theorems

* `generated_progress`: A generated bracket is the sheet without reports.
* `recordAll_progress`, `advance_progress`: Reporting and moving on.
* `placement_champion`, `placement_loser`: The placements at the end.
-/

namespace SvmCourse

namespace Esports

open Core

/-- Slots are looked up by their round and position. -/
instance instLawfulBEqSlot : LawfulBEq (Nat × Nat) := inferInstance

/-- Every match of the round before is among the reported ones. -/
def seatsFilled (k : Nat) (seen : List (Nat × Nat)) : Nat → Bool
  | 0 => true
  | r + 1 => (roundSlots k r).all fun m => seen.contains m

theorem seatsFilled_succ {k r : Nat} {seen : List (Nat × Nat)} :
    seatsFilled k seen (r + 1) = true ↔ ∀ j < 2 ^ (k - 1 - r), (r, j) ∈ seen := by
  unfold seatsFilled
  simp only [List.all_eq_true, List.contains_iff_mem]
  constructor
  · intro h j hj
    exact h (r, j) (mem_roundSlots.mpr ⟨rfl, hj⟩)
  · intro h m hm
    rcases mem_roundSlots.mp hm with ⟨hr, hj⟩
    have heq : m = (r, m.2) := Prod.ext hr rfl
    rw [heq]
    exact h m.2 hj

section Progress

variable (K : Knockout String) (hex : BracketHex)

/-- The sheet in which the matches `reported` have their winners and the rounds
    that `seen` completes have their players. -/
def progress (seen reported : List (Nat × Nat)) : Sheet where
  rounds := K.rounds
  hex := hex
  cell := fun r j =>
    { player1Id := if seatsFilled K.rounds seen r then some (K.survivor r (2 * j)) else none
      player2Id := if seatsFilled K.rounds seen r then some (K.survivor r (2 * j + 1)) else none
      winnerId := if (r, j) ∈ reported then some (K.survivor (r + 1) j) else none
      status := if (r, j) ∈ reported then .completed else .pending }

/-- The result of a match. -/
def reportOf (m : Nat × Nat) : BracketResult where
  matchId := slotId hex m.1 m.2
  winnerId := K.survivor (m.1 + 1) m.2

/-- Reporting matches adds them to those that have their winners. -/
theorem recordAll_progress (seen reported batch : List (Nat × Nat)) :
    (progress K hex seen reported).recordAll (batch.map (reportOf K hex)) =
      progress K hex seen (reported ++ batch) := by
  unfold Sheet.recordAll
  -- On the reports: each decides one match.
  induction batch generalizing reported with
  | nil => rw [List.append_nil]; rfl
  | cons m batch ih =>
      have hone : (progress K hex seen reported).record (reportOf K hex m) =
          progress K hex seen (reported ++ [m]) := by
        unfold Sheet.record progress reportOf
        simp only [Sheet.mk.injEq, true_and]
        funext r j
        by_cases hm : (r, j) = m
        · subst hm
          simp
        · have hid : ¬slotId hex r j = slotId hex m.1 m.2 := by
            intro h
            rcases slotId_inj h with ⟨hr, hj⟩
            exact hm (Prod.ext hr hj)
          simp [hid, hm]
      rw [List.map_cons, List.foldl_cons, hone, ih, List.append_assoc, List.singleton_append]

/-- Everybody in the knockout has a name. -/
def Named : Prop := ∀ i < 2 ^ K.rounds, K.entrant i ≠ ""

variable {K}

theorem Named.survivor (hK : Named K) {r j : Nat} (hr : r ≤ K.rounds)
    (hj : j < 2 ^ (K.rounds - r)) : truthy (some (K.survivor r j)) = true := by
  rcases K.survivor_mem hr hj with ⟨i, hi, h⟩
  rw [truthy_some, h]
  exact hK i hi

/-- A round is complete when all its matches are reported. -/
theorem complete_progress (hK : Named K) (seen reported : List (Nat × Nat)) {r : Nat}
    (hr : r < K.rounds) :
    (progress K hex seen reported).complete r = seatsFilled K.rounds reported (r + 1) := by
  have hsub : K.rounds - (r + 1) = K.rounds - 1 - r := by omega
  rw [Bool.eq_iff_iff, Sheet.complete_iff, seatsFilled_succ]
  refine forall₂_congr fun j hj => ?_
  have hj' : j < 2 ^ (K.rounds - (r + 1)) := by
    rw [hsub]
    exact hj
  by_cases hm : (r, j) ∈ reported
  · simp [progress, hm, hK.survivor hr hj']
  · simp [progress, hm]

/-- Moving winners on seats everybody whose round before is reported. -/
theorem advance_progress (hK : Named K) {seen reported : List (Nat × Nat)}
    (hsub : ∀ m ∈ seen, m ∈ reported) :
    (progress K hex seen reported).advance.toBracket =
      (progress K hex reported reported).toBracket := by
  refine Sheet.toBracket_congr rfl rfl fun r j hslot => ?_
  have hslot' : IsSlot K.rounds r j := hslot
  cases r with
  | zero => rfl
  | succ r =>
      have hr : r < K.rounds := by
        have := hslot'.1
        omega
      have hcomplete := complete_progress hex hK seen reported hr
      -- A round is seated once the one before it is reported in full, and not sooner.
      by_cases hfilled : seatsFilled K.rounds reported (r + 1) = true
      · rw [hfilled] at hcomplete
        rw [Sheet.advance_filled _ hcomplete]
        have hmem := seatsFilled_succ.mp hfilled
        have hfeeders := feeders_slot hslot'
        simp [progress, hfilled, hmem _ hfeeders.1.2, hmem _ hfeeders.2.2]
      · rw [Bool.not_eq_true] at hfilled
        have hempty : seatsFilled K.rounds seen (r + 1) = false := by
          rw [Bool.eq_false_iff, ne_eq, seatsFilled_succ]
          intro h
          rw [Bool.eq_false_iff, ne_eq, seatsFilled_succ] at hfilled
          exact hfilled fun j hj => hsub _ (h j hj)
        rw [hfilled] at hcomplete
        rw [Sheet.advance_stays _ fun _ => hcomplete]
        simp [progress, hfilled, hempty]

end Progress

/-! ### The generated bracket -/

/-- The knockout of two to the power of `k` different players. -/
def bracketKnockout (k : Nat) (ids : List String) (hlength : ids.length = 2 ^ k)
    (hids : ids.Nodup) (first : Nat → Nat → String → String → Bool) : Knockout String where
  rounds := k
  entrant := fun i => ids.getD i ""
  first := first
  distinct := by
    intro i hi j hj h
    rw [← hlength] at hi hj
    rw [List.getD_eq_getElem _ _ hi, List.getD_eq_getElem _ _ hj] at h
    exact (List.Nodup.getElem_inj_iff hids).mp h

section Generated

variable {k : Nat} {ids : List String} (hlength : ids.length = 2 ^ k) (hids : ids.Nodup)
  (first : Nat → Nat → String → String → Bool)

theorem bracketKnockout_named (hnamed : ∀ id ∈ ids, id ≠ "") :
    Named (bracketKnockout k ids hlength hids first) := by
  intro i hi
  have hi' : i < ids.length := hlength ▸ hi
  change ids.getD i "" ≠ ""
  rw [List.getD_eq_getElem _ _ hi']
  exact hnamed _ (List.getElem_mem hi')

/-- The bracket of a power of two players begins with everybody seated in the
    first round and nothing decided. -/
theorem generated_progress (hnamed : ∀ id ∈ ids, id ≠ "") (hex : BracketHex) :
    (generatedSheet hex ids).toBracket =
      (progress (bracketKnockout k ids hlength hids first) hex [] []).toBracket := by
  have hrounds : numRounds ids.length = k := by
    rw [hlength]
    exact Nat.clog_pow 2 k (by omega)
  refine Sheet.toBracket_congr hrounds rfl fun r j hslot => ?_
  have hslot' : IsSlot k r j := by
    have h : IsSlot (numRounds ids.length) r j := hslot
    rwa [hrounds] at h
  have hhalf := two_pow_sub hslot'.1
  have hj := hslot'.2
  cases r with
  | zero =>
      -- Every seat of the first round has a player, as there are twice as many as
      -- matches.
      have hin : 2 * j + 1 < ids.length := by
        rw [hlength]
        rw [Nat.sub_zero] at hhalf
        omega
      have hget : ∀ i, i < ids.length → ∃ a, ids[i]? = some a ∧ truthy (some a) = true :=
        fun i hi => ⟨ids[i], List.getElem?_eq_getElem hi,
          truthy_some.mpr (hnamed _ (List.getElem_mem hi))⟩
      rcases hget (2 * j) (by omega) with ⟨a, ha, hna⟩
      rcases hget (2 * j + 1) hin with ⟨b, hb, hnb⟩
      simp [generatedSheet, generatedCell, seated, ha, hb, newBracketMatch, orMissing, hna, hnb,
        progress, seatsFilled, bracketKnockout, Knockout.survivor]
  | succ r =>
      -- Nobody has a bye, so the later rounds are empty.
      have heven : ¬ids.length % 2 = 1 := by
        have hpos : 0 < k := by
          have := hslot'.1
          omega
        have hdouble := two_pow_sub hpos
        rw [Nat.sub_zero] at hdouble
        omega
      have hnobody : ∀ i, seated ids (r + 1) i = none := by
        intro i
        rw [seated_succ hnamed, if_neg fun h => heven h.1]
      have hempty : seatsFilled k [] (r + 1) = false := by
        rw [Bool.eq_false_iff, ne_eq, seatsFilled_succ]
        intro h
        exact absurd (h 0 (Nat.two_pow_pos _)) List.not_mem_nil
      have hempty' : seatsFilled (bracketKnockout k ids hlength hids first).rounds [] (r + 1) =
          false := hempty
      simp [generatedSheet, generatedCell, hnobody, newBracketMatch, orMissing, progress, hempty']

end Generated

/-! ### Placements -/

section Placements

variable {K : Knockout String} {seen reported : List (Nat × Nat)} (hex : BracketHex)

/-- The match is reported and has its players. -/
structure Played (K : Knockout String) (seen reported : List (Nat × Nat)) : Prop where
  named : Named K
  filled : ∀ r < K.rounds, seatsFilled K.rounds seen r = true
  reported : ∀ r j, IsSlot K.rounds r j → (r, j) ∈ reported

/-- The loser the service finds is the loser of the knockout. -/
theorem loserId_played (h : Played K seen reported) {r j : Nat} (hslot : IsSlot K.rounds r j) :
    loserId ((progress K hex seen reported).matchOf r j) = some (K.loser r j) := by
  have hhalf := two_pow_sub hslot.1
  have hj := hslot.2
  have hle : r ≤ K.rounds := Nat.le_of_lt hslot.1
  have hne : K.survivor r (2 * j) ≠ K.survivor r (2 * j + 1) := by
    intro heq
    have := K.survivor_inj hle (by omega) (by omega) heq
    omega
  unfold loserId
  -- The loser is the other one, whichever side won.
  rcases K.survivor_succ r j with ⟨hw, hl⟩ | ⟨hw, hl⟩
  · simp [Sheet.matchOf, Cell.toMatch, progress, h.filled r hslot.1, h.reported r j hslot, hw, hl]
  · simp [Sheet.matchOf, Cell.toMatch, progress, h.filled r hslot.1, h.reported r j hslot, hw, hl,
      hne]

theorem winnerId_played (h : Played K seen reported) {r j : Nat} (hslot : IsSlot K.rounds r j) :
    ((progress K hex seen reported).matchOf r j).winnerId = some (K.survivor (r + 1) j) ∧
      truthy (some (K.survivor (r + 1) j)) = true ∧ truthy (some (K.loser r j)) = true := by
  have hsub : K.rounds - (r + 1) = K.rounds - 1 - r := by omega
  have hj := hslot.2
  have hlt : j < 2 ^ (K.rounds - (r + 1)) := by
    rw [hsub]
    exact hj
  refine ⟨?_, h.named.survivor hslot.1 hlt, ?_⟩
  · simp [Sheet.matchOf, Cell.toMatch, progress, h.reported r j hslot]
  · rcases K.loser_eq_survivor hslot with ⟨i, hi, -, hl⟩
    rw [hl]
    exact h.named.survivor (Nat.le_of_lt hslot.1) hi

/-- The champion is placed first, and the losers of the first `n` matches of
    round `q` and of all matches of later rounds by their rounds. Nobody else
    is placed. -/
def PlacedFrom (K : Knockout String) (q n : Nat) (placements : Placements) : Prop :=
  ∀ p v, (placements.findOne p).map Prod.snd = some v ↔
    (p = K.champion ∧ v = 1) ∨
      ∃ r j, IsSlot K.rounds r j ∧ (q < r ∨ r = q ∧ j < n) ∧ p = K.loser r j ∧
        v = 2 ^ (K.rounds - r)

/-- Saving a placement under its player. -/
theorem findOne_savePlacement (placements : Placements) (p p' : String) (v : ℚ) :
    ((placements.save (p, v)).findOne p').map Prod.snd =
      if p' = p then some v else (placements.findOne p').map Prod.snd := by
  rw [Table.findOne_save]
  by_cases h : p' = p
  · rw [if_pos h, if_pos h, Option.map_some]
  · rw [if_neg h, if_neg h]

/-- A loser of round `q` is not placed before the match is looked at. -/
theorem PlacedFrom.loser_new {q n : Nat} {placements : Placements}
    (h : PlacedFrom K q n placements) (hslot : IsSlot K.rounds q n) :
    placements.findOne (K.loser q n) = none := by
  cases hfind : placements.findOne (K.loser q n) with
  | none => rfl
  | some e =>
      have hplaced := (h (K.loser q n) e.2).mp (by rw [hfind, Option.map_some])
      rcases hplaced with ⟨hchampion, -⟩ | ⟨r, j, hslot', hlater, hsame, -⟩
      · exact absurd hchampion.symm (K.champion_ne_loser hslot)
      · rcases K.loser_inj hslot hslot' hsame with ⟨hr, hj⟩
        omega

theorem placeLoser_played (h : Played K seen reported) {q n : Nat} (hslot : IsSlot K.rounds q n)
    {placements : Placements} (hplaced : PlacedFrom K q n placements) :
    PlacedFrom K q (n + 1) (placeLoser (2 ^ (K.rounds - q)) placements
      ((progress K hex seen reported).matchOf q n)) := by
  have hwin := winnerId_played hex h hslot
  have hloser := loserId_played hex h hslot
  have hnew := hplaced.loser_new hslot
  -- The loser is known, and has no place yet.
  have hsave : placeLoser (2 ^ (K.rounds - q)) placements
      ((progress K hex seen reported).matchOf q n) =
        placements.save (K.loser q n, 2 ^ (K.rounds - q)) := by
    unfold placeLoser
    simp [hloser, hwin.1, hwin.2.1, hwin.2.2, hnew]
  rw [hsave]
  intro p v
  rw [findOne_savePlacement]
  -- Nobody loses twice, so no place is written over.
  by_cases hp : p = K.loser q n
  · rw [if_pos hp]
    constructor
    · intro hv
      exact Or.inr ⟨q, n, hslot, Or.inr ⟨rfl, by omega⟩, hp, (Option.some.inj hv).symm⟩
    · intro hv
      rcases hv with ⟨hchampion, -⟩ | ⟨r, j, hslot', -, hsame, hv⟩
      · exact absurd (hchampion.symm.trans hp) (K.champion_ne_loser hslot)
      · rcases K.loser_inj hslot hslot' (hp.symm.trans hsame) with ⟨rfl, -⟩
        rw [hv]
  · rw [if_neg hp, hplaced p v]
    refine or_congr_right ⟨fun hv => ?_, fun hv => ?_⟩
    · rcases hv with ⟨r, j, hslot', hlater, hrest⟩
      exact ⟨r, j, hslot', by omega, hrest⟩
    · rcases hv with ⟨r, j, hslot', hlater, hsame, hv⟩
      refine ⟨r, j, hslot', ?_, hsame, hv⟩
      by_cases hlast : r = q ∧ j = n
      · rw [hlast.1, hlast.2] at hsame
        exact absurd hsame hp
      · omega

/-- A whole round places all its losers. -/
theorem placeRound_played (h : Played K seen reported) {q : Nat} (hq : q < K.rounds)
    {placements : Placements} (hplaced : PlacedFrom K q 0 placements) (n : Nat)
    (hn : n ≤ 2 ^ (K.rounds - 1 - q)) :
    PlacedFrom K q n (((List.range n).map ((progress K hex seen reported).matchOf q)).foldl
      (placeLoser (2 ^ (K.rounds - q))) placements) := by
  induction n with
  | zero => exact hplaced
  | succ n ih =>
      rw [List.range_succ, List.map_append, List.foldl_append]
      exact placeLoser_played hex h ⟨hq, by omega⟩ (ih (by omega))

/-- The round before begins where a round ends. -/
theorem PlacedFrom.before {q : Nat} {placements : Placements}
    (h : PlacedFrom K (q + 1) (2 ^ (K.rounds - 1 - (q + 1))) placements) :
    PlacedFrom K q 0 placements := by
  intro p v
  rw [h p v]
  refine or_congr_right ⟨fun hv => ?_, fun hv => ?_⟩
  · rcases hv with ⟨r, j, hslot, hlater, hrest⟩
    exact ⟨r, j, hslot, by omega, hrest⟩
  · rcases hv with ⟨r, j, hslot, hlater, hrest⟩
    refine ⟨r, j, hslot, ?_, hrest⟩
    by_cases hr : r = q + 1
    · rw [hr] at hslot
      exact Or.inr ⟨hr, hslot.2⟩
    · omega

/-- The final places its two players. -/
theorem placeFinal_played (h : Played K seen reported) {k : Nat} (hk : K.rounds = k + 1) :
    PlacedFrom K k 1 (placeFinal Table.empty ((progress K hex seen reported).matchOf k 0)) := by
  have hslot : IsSlot K.rounds k 0 := ⟨by omega, Nat.two_pow_pos _⟩
  have hwin := winnerId_played hex h hslot
  have hloser := loserId_played hex h hslot
  have hchampion : K.survivor (k + 1) 0 = K.champion := by
    rw [← hk]
    rfl
  have hne := K.champion_ne_loser hslot
  have hsub : K.rounds - k = 1 := by omega
  have hsave : placeFinal Table.empty ((progress K hex seen reported).matchOf k 0) =
      ((Table.empty : Placements).save (K.champion, 1)).save (K.loser k 0, 2) := by
    rw [hchampion] at hwin
    unfold placeFinal
    simp [hloser, hwin.1, hwin.2.1, hwin.2.2]
  rw [hsave]
  intro p v
  rw [findOne_savePlacement, findOne_savePlacement]
  by_cases hp : p = K.loser k 0
  · rw [if_pos hp]
    constructor
    · intro hv
      refine Or.inr ⟨k, 0, hslot, Or.inr ⟨rfl, by omega⟩, hp, ?_⟩
      rw [hsub, pow_one]
      exact (Option.some.inj hv).symm
    · intro hv
      rcases hv with ⟨hfirst, -⟩ | ⟨r, j, hslot', -, hsame, hv⟩
      · exact absurd (hfirst.symm.trans hp) hne
      · rcases K.loser_inj hslot hslot' (hp.symm.trans hsame) with ⟨rfl, -⟩
        rw [hv, hsub, pow_one]
  · rw [if_neg hp]
    by_cases hfirst : p = K.champion
    · rw [if_pos hfirst]
      constructor
      · intro hv
        exact Or.inl ⟨hfirst, (Option.some.inj hv).symm⟩
      · intro hv
        rcases hv with ⟨-, rfl⟩ | ⟨r, j, hslot', -, hsame, -⟩
        · rfl
        · exact absurd (hfirst.symm.trans hsame) (K.champion_ne_loser hslot')
    · rw [if_neg hfirst]
      constructor
      · intro hv
        exact nomatch hv
      · intro hv
        rcases hv with ⟨hyes, -⟩ | ⟨r, j, hslot', hlater, hsame, -⟩
        · exact absurd hyes hfirst
        · -- Only the final is played this late.
          have hr := hslot'.1
          obtain rfl : r = k := by omega
          obtain rfl : j = 0 := by omega
          exact absurd hsame hp

/-- From the second last round down to the first, every round places its
    losers by its number. -/
theorem placeRounds_played (h : Played K seen reported) {k : Nat} (hk : K.rounds = k + 1)
    (q : Nat) (hq : q ≤ k) {placements : Placements} (hplaced : PlacedFrom K q
      (2 ^ (K.rounds - 1 - q)) placements) :
    PlacedFrom K 0 (2 ^ (K.rounds - 1)) (placeRounds placements (K.rounds - q)
      ((List.range q).map (progress K hex seen reported).round).reverse) := by
  induction q generalizing placements with
  | zero => exact hplaced
  | succ q ih =>
      have hsub : K.rounds - (q + 1) + 1 = K.rounds - q := by omega
      have hlater : ¬K.rounds - (q + 1) = 0 := by omega
      -- The last of the rounds is placed first, and its place is twice as far down
      -- for the next.
      rw [List.range_succ, List.map_append, List.reverse_append, List.map_singleton,
        List.reverse_singleton, List.singleton_append, placeRounds]
      simp only [if_neg hlater, hsub]
      refine ih (by omega) ?_
      have hround := placeRound_played hex h (q := q) (by omega) hplaced.before
        (2 ^ (K.rounds - 1 - q)) (le_refl _)
      exact hround

/-- The placements of a bracket in which everything is played are the rounds of
    the knockout. -/
theorem finalPlacements_played (h : Played K seen reported) (hpos : 0 < K.rounds) :
    PlacedFrom K 0 (2 ^ (K.rounds - 1))
      (finalPlacements (progress K hex seen reported).toBracket) := by
  obtain ⟨k, hk⟩ : ∃ k, K.rounds = k + 1 := ⟨K.rounds - 1, by omega⟩
  have hrounds : (progress K hex seen reported).rounds = k + 1 := hk
  have hone : 2 ^ (K.rounds - 1 - k) = 1 := by
    have hsub : K.rounds - 1 - k = 0 := by omega
    rw [hsub, Nat.pow_zero]
  -- The last round is the final, whose winner is placed as well.
  have hround : ((progress K hex seen reported).round k).matchList =
      [(progress K hex seen reported).matchOf k 0] := by
    change (List.range (2 ^ (K.rounds - 1 - k))).map _ = _
    rw [hone]
    rfl
  unfold finalPlacements Sheet.toBracket
  rw [hrounds, List.range_succ, List.map_append, List.reverse_append, List.map_singleton,
    List.reverse_singleton, List.singleton_append, placeRounds]
  simp only [if_true, hround, List.foldl_cons, List.foldl_nil, Nat.zero_add]
  have hsub : K.rounds - k = 1 := by omega
  have hfinal := placeFinal_played hex h hk
  rw [← hone] at hfinal
  have hrest := placeRounds_played hex h hk k (le_refl k) hfinal
  rwa [hsub] at hrest

/-- The champion is placed first. -/
theorem placement_champion (h : Played K seen reported) (hpos : 0 < K.rounds) :
    ((finalPlacements (progress K hex seen reported).toBracket).findOne K.champion).map Prod.snd =
      some 1 :=
  (finalPlacements_played hex h hpos _ _).mpr (Or.inl ⟨rfl, rfl⟩)

/-- Whoever loses in round `r` is placed by the number of players left then. -/
theorem placement_loser (h : Played K seen reported) {r j : Nat} (hslot : IsSlot K.rounds r j) :
    ((finalPlacements (progress K hex seen reported).toBracket).findOne
      (K.loser r j)).map Prod.snd =
      some (2 ^ (K.rounds - r)) := by
  refine (finalPlacements_played hex h (by have := hslot.1; omega) _ _).mpr
    (Or.inr ⟨r, j, hslot, ?_, rfl, rfl⟩)
  by_cases hr : r = 0
  · have hj := hslot.2
    rw [hr, Nat.sub_zero] at hj
    exact Or.inr ⟨hr, hj⟩
  · exact Or.inl (by omega)

end Placements

end Esports

end SvmCourse
