import SvmCourse.Esports.Placements
import SvmCourse.Esports.Plays

/-!
# Finishers

The places a tournament gives when every match is won by one of its players and
everybody is placed in the end. They are one, and for every round the power of
two that its losers get, whatever the number of players. A field that is no
power of two makes no difference: more than half of the seats of the first
round are taken, so the first match of every round has two players, and one of
them loses it.

## Main definitions

* `bracketPlaces`: The places of a bracket for so many players.
* `Sheet.Ends`: The match in which a player's way through the bracket ends.
* `PlayedOut`: A bracket that was played to the end.

## Theorems

* `AllPlaced.sits_next`: A winner who is placed in the end sits in the next
  round.
* `AllPlaced.decided`: A match with a player under it is decided.
* `placed_iff`: The places that are given.
-/

namespace SvmCourse

namespace Esports

open Core Core.Prog

/-- The places of a bracket for so many players: the first, and one for the
    losers of each round. -/
def bracketPlaces (n : Nat) : List ℚ := 1 :: (List.range (numRounds n)).map fun i => 2 ^ (i + 1)

theorem mem_bracketPlaces {n : Nat} {place : ℚ} : place ∈ bracketPlaces n ↔
    place = 1 ∨ ∃ r < numRounds n, place = 2 ^ (numRounds n - r) := by
  unfold bracketPlaces
  rw [List.mem_cons, List.mem_map]
  -- The list counts the rounds from the last, the statement from the first.
  refine or_congr_right ⟨?_, ?_⟩
  · rintro ⟨i, hi, rfl⟩
    rw [List.mem_range] at hi
    refine ⟨numRounds n - 1 - i, by omega, ?_⟩
    congr 1
    omega
  · rintro ⟨r, hr, rfl⟩
    refine ⟨numRounds n - 1 - r, List.mem_range.mpr (by omega), ?_⟩
    congr 1
    omega

/-- The player loses the match, or it is the final and he wins it. -/
def Sheet.Ends (sheet : Sheet) (r j : Nat) (p : String) : Prop :=
  (sheet.matchOf r j).loses p = true ∨
    r + 1 = sheet.rounds ∧ (sheet.matchOf r j).wins p = true

theorem loses_iff {m : BracketMatch} {p : String} : m.loses p = true ↔
    truthy m.winnerId = true ∧ loserId m = some p ∧ p ≠ "" := by
  unfold BracketMatch.loses
  simp [and_assoc]

theorem wins_iff {m : BracketMatch} {p : String} : m.wins p = true ↔
    m.winnerId = some p ∧ p ≠ "" := by
  unfold BracketMatch.wins
  simp

theorem round_loses {sheet : Sheet} {r : Nat} {p : String} : (sheet.round r).loses p = true ↔
    ∃ j < 2 ^ (sheet.rounds - 1 - r), (sheet.matchOf r j).loses p = true := by
  unfold BracketRound.loses Sheet.round
  simp

/-- Every round has a first match, and the last round no other. -/
theorem first_slot {k r : Nat} (hr : r < k) : IsSlot k r 0 := ⟨hr, Nat.pow_pos (by omega)⟩

theorem last_slot {k r j : Nat} (hslot : IsSlot k r j) (hlast : r + 1 = k) : j = 0 := by
  have hlt := hslot.2
  rw [show k - 1 - r = 0 by omega] at hlt
  omega

/-- Whoever is placed is placed by a match. -/
theorem ends_of_placed {sheet : Sheet} (hpos : 0 < sheet.rounds) {p : String}
    (h : (sheet.toBracket.placeOf p).isSome = true) :
    ∃ r j, IsSlot sheet.rounds r j ∧ sheet.Ends r j p := by
  have hfinal : IsSlot sheet.rounds (sheet.rounds - 1) 0 := first_slot (by omega)
  unfold Bracket.placeOf at h
  rw [finalMatch_eq hpos, Option.any_some, Option.any_some] at h
  by_cases hlost : (sheet.matchOf (sheet.rounds - 1) 0).loses p = true
  · exact ⟨_, _, hfinal, .inl hlost⟩
  by_cases hwon : (sheet.matchOf (sheet.rounds - 1) 0).wins p = true
  · exact ⟨_, _, hfinal, .inr ⟨by omega, hwon⟩⟩
  -- Neither winner nor loser of the final: some round was lost.
  rw [if_neg hlost, if_neg hwon, Option.isSome_map, List.findIdx?_isSome, List.any_reverse,
    List.any_eq_true] at h
  rcases h with ⟨round, hround, hloses⟩
  rcases List.mem_map.mp hround with ⟨r, hr, rfl⟩
  rcases round_loses.mp hloses with ⟨j, hj, hlost⟩
  exact ⟨r, j, ⟨List.mem_range.mp hr, hj⟩, .inl hlost⟩

section Seats

variable {ids : List String} {sheet : Sheet} {r j r' j' : Nat} {p : String}

/-- A player's way ends in a match in which he sits. -/
theorem Seated.sits_of_ends (hs : Seated ids sheet) (hslot : IsSlot sheet.rounds r j)
    (h : sheet.Ends r j p) : sheet.Sits r j p := by
  rcases h with hlost | ⟨-, hwon⟩
  · have hloser := (loses_iff.mp hlost).2.1
    unfold loserId at hloser
    split at hloser
    · exact .inr hloser
    · exact .inl hloser
  · rcases wins_iff.mp hwon with ⟨hwinner, hname⟩
    exact hs.sits_of_won hslot hwinner (truthy_some.mpr hname)

/-- Nobody loses a match that he wins. -/
theorem Seated.not_won (hs : Seated ids sheet) (hids : ids.Nodup) (hslot : IsSlot sheet.rounds r j)
    (hlost : (sheet.matchOf r j).loses p = true) : (sheet.cell r j).winnerId ≠ some p := by
  intro hwon
  have hloser := (loses_iff.mp hlost).2.1
  have hwon' : (sheet.matchOf r j).winnerId = some p := hwon
  unfold loserId at hloser
  split at hloser
  · next h1 => exact hs.different hids hslot (h1.trans hwon') hloser
  · next h1 => exact h1 (hloser.trans hwon'.symm)

/-- Whoever sits in a decided match and does not win it loses it. -/
theorem Seated.loses (hs : Seated ids sheet) (hslot : IsSlot sheet.rounds r j)
    (hsits : sheet.Sits r j p) (hname : p ≠ "") (hdecided : truthy (sheet.cell r j).winnerId = true)
    (hnot : (sheet.cell r j).winnerId ≠ some p) : (sheet.matchOf r j).loses p = true := by
  refine loses_iff.mpr ⟨hdecided, ?_, hname⟩
  change (if (sheet.cell r j).player1Id = (sheet.cell r j).winnerId then
    (sheet.cell r j).player2Id else (sheet.cell r j).player1Id) = some p
  rcases hsits with h1 | h2
  · rw [if_neg (fun h => hnot (h.symm.trans h1)), h1]
  · have hwinner := (hs.winner r j hslot hdecided).resolve_right fun h => hnot (h.trans h2)
    rw [if_pos hwinner.symm, h2]

/-- Nobody sits in a later round than the one in which his way ends. -/
theorem Seated.last (hs : Seated ids sheet) (hids : ids.Nodup) (hslot : IsSlot sheet.rounds r j)
    (hends : sheet.Ends r j p) (hslot' : IsSlot sheet.rounds r' j') (hsits : sheet.Sits r' j' p) :
    r' ≤ r := by
  by_contra hlt
  have hwon := hs.won hids (by omega) hslot hslot' (hs.sits_of_ends hslot hends) hsits
  rcases hends with hlost | ⟨hlast, -⟩
  · exact hs.not_won hids hslot hlost hwon
  · have hr := hslot'.1
    omega

/-! ### Places -/

/-- Losers are placed by the round they lose. -/
theorem Seated.placeOf_loser (hs : Seated ids sheet) (hids : ids.Nodup)
    (hslot : IsSlot sheet.rounds r j) (hlost : (sheet.matchOf r j).loses p = true) :
    sheet.toBracket.placeOf p = some (2 ^ (sheet.rounds - r)) := by
  have hr := hslot.1
  have hfinal : IsSlot sheet.rounds (sheet.rounds - 1) 0 := first_slot (by omega)
  unfold Bracket.placeOf
  rw [finalMatch_eq (by omega), Option.any_some, Option.any_some]
  by_cases hlast : r + 1 = sheet.rounds
  · rw [show sheet.rounds - 1 = r by omega, ← last_slot hslot hlast, if_pos hlost, ← hlast,
      Nat.add_sub_cancel_left, pow_one]
  · -- His way has ended before the final.
    have hbefore : ¬sheet.Ends (sheet.rounds - 1) 0 p := by
      intro hends
      have hle := hs.last hids hslot (.inl hlost) hfinal (hs.sits_of_ends hfinal hends)
      omega
    rw [if_neg fun h => hbefore (.inl h), if_neg fun h => hbefore (.inr ⟨by omega, h⟩)]
    have hlength : sheet.toBracket.rounds.length = sheet.rounds := by
      simp [Sheet.toBracket]
    -- The rounds are searched from the last one, and no later one was lost.
    have hindex : (sheet.toBracket.rounds.reverse.findIdx? fun round => round.loses p) =
        some (sheet.rounds - 1 - r) := by
      rw [List.findIdx?_eq_some_iff_getElem]
      refine ⟨by rw [List.length_reverse, hlength]; omega, ?_, fun i hi => ?_⟩
      · rw [List.getElem_reverse]
        simp only [Sheet.toBracket, List.getElem_map, List.getElem_range, List.length_map,
          List.length_range]
        rw [show sheet.rounds - 1 - (sheet.rounds - 1 - r) = r by omega]
        exact round_loses.mpr ⟨j, hslot.2, hlost⟩
      · rw [List.getElem_reverse]
        simp only [Sheet.toBracket, List.getElem_map, List.getElem_range, List.length_map,
          List.length_range]
        intro hlater
        rcases round_loses.mp hlater with ⟨j', hj', hlost'⟩
        have hslot' : IsSlot sheet.rounds (sheet.rounds - 1 - i) j' := ⟨by omega, hj'⟩
        have hle := hs.last hids hslot (.inl hlost) hslot' (hs.sits_of_ends hslot' (.inl hlost'))
        omega
    rw [hindex, Option.map_some]
    congr 2
    omega

/-- The winner of the final is first. -/
theorem Seated.placeOf_champion (hs : Seated ids sheet) (hids : ids.Nodup)
    (hslot : IsSlot sheet.rounds r j) (hlast : r + 1 = sheet.rounds)
    (hwon : (sheet.matchOf r j).wins p = true) : sheet.toBracket.placeOf p = some 1 := by
  have hnot : ¬(sheet.matchOf r j).loses p = true := fun hlost =>
    hs.not_won hids hslot hlost (wins_iff.mp hwon).1
  unfold Bracket.placeOf
  rw [finalMatch_eq (by omega), Option.any_some, Option.any_some,
    show sheet.rounds - 1 = r by omega, ← last_slot hslot hlast, if_neg hnot, if_pos hwon]

end Seats

/-! ### When everybody is placed -/

section Placed

variable {ids : List String} {sheet : Sheet} {r j : Nat} {p : String}

/-- Everybody has a name of his own and is placed in the end. -/
structure AllPlaced (ids : List String) (sheet : Sheet) : Prop extends Seated ids sheet where
  different : ids.Nodup
  named : ∀ id ∈ ids, id ≠ ""
  enough : 2 ≤ ids.length
  placed : ∀ id ∈ ids, (sheet.toBracket.placeOf id).isSome = true

theorem AllPlaced.rounds_pos (h : AllPlaced ids sheet) : 0 < sheet.rounds := by
  rw [h.rounds]
  exact Nat.clog_pos (by omega) h.enough

/-- More than half of the seats of the first round are taken. -/
theorem AllPlaced.half_lt (h : AllPlaced ids sheet) : 2 ^ (sheet.rounds - 1) < ids.length := by
  rw [h.rounds]
  exact Nat.pow_pred_clog_lt_self (by omega) h.enough

/-- A match in which somebody sits is decided. -/
theorem AllPlaced.decided_of_sits (h : AllPlaced ids sheet) (hslot : IsSlot sheet.rounds r j)
    (hsits : sheet.Sits r j p) : truthy (sheet.cell r j).winnerId = true := by
  have hmem := h.mem hslot hsits
  rcases ends_of_placed h.rounds_pos (h.placed p hmem) with ⟨r', j', hslot', hends⟩
  have hle := h.last h.different hslot' hends hslot hsits
  -- Either the match is the one in which his way ends, or he has won it.
  by_cases hlast : r = r'
  · subst hlast
    obtain rfl := h.unique h.different hslot hslot' hsits (h.sits_of_ends hslot' hends)
    rcases hends with hlost | ⟨-, hwon⟩
    · exact (loses_iff.mp hlost).1
    · rw [show (sheet.cell r j).winnerId = some p from (wins_iff.mp hwon).1]
      exact truthy_some.mpr (h.named p hmem)
  · rw [h.won h.different (by omega) hslot hslot' hsits (h.sits_of_ends hslot' hends)]
    exact truthy_some.mpr (h.named p hmem)

/-- The winner of a decided match is a player who sits in it. -/
theorem AllPlaced.winner_sits (h : AllPlaced ids sheet) (hslot : IsSlot sheet.rounds r j)
    (hdecided : truthy (sheet.cell r j).winnerId = true) :
    ∃ p ∈ ids, (sheet.cell r j).winnerId = some p ∧ sheet.Sits r j p := by
  cases hwinner : (sheet.cell r j).winnerId with
  | none =>
      rw [hwinner] at hdecided
      exact nomatch hdecided
  | some p =>
      rw [hwinner] at hdecided
      have hsits := h.sits_of_won hslot hwinner hdecided
      exact ⟨p, h.mem hslot hsits, rfl, hsits⟩

/-- The winner of a match before the final sits in the next round. -/
theorem AllPlaced.sits_next (h : AllPlaced ids sheet) (hslot : IsSlot sheet.rounds r j)
    (hdecided : truthy (sheet.cell r j).winnerId = true) (hnext : r + 1 < sheet.rounds) :
    ∃ p, sheet.Sits r j p ∧ sheet.Sits (r + 1) (j / 2) p := by
  rcases h.winner_sits hslot hdecided with ⟨p, hmem, hwinner, hsits⟩
  refine ⟨p, hsits, ?_⟩
  rcases ends_of_placed h.rounds_pos (h.placed p hmem) with ⟨r', j', hslot', hends⟩
  have hsits' := h.sits_of_ends hslot' hends
  have hle := h.last h.different hslot' hends hslot hsits
  by_cases hlast : r = r'
  · -- His way would end in the match he wins.
    subst hlast
    obtain rfl := h.unique h.different hslot hslot' hsits hsits'
    rcases hends with hlost | ⟨hfinal, -⟩
    · exact absurd hwinner (h.not_won h.different hslot hlost)
    · omega
  · -- He comes from one place of the first round, from which the match follows.
    rcases h.path hslot hsits with ⟨i, hi, hplace, -⟩
    rcases h.path hslot' hsits' with ⟨i', hi', hplace', hpath⟩
    obtain rfl := place_unique h.different hi hi'
    have hhalf : j / 2 = i / 2 ^ (r + 1 + 1) := by
      rw [← hplace, Nat.div_div_eq_div_mul, Nat.pow_succ 2 (r + 1)]
    rw [hhalf]
    by_cases hthere : r + 1 = r'
    · subst hthere
      rwa [hplace']
    · -- His way ends later still, so he won the match of the next round.
      have hslotNext : IsSlot sheet.rounds (r + 1) (i / 2 ^ (r + 1 + 1)) := by
        rw [← hhalf]
        refine ⟨hnext, ?_⟩
        have hlt := hslot.2
        rw [show sheet.rounds - 1 - r = sheet.rounds - 1 - (r + 1) + 1 by omega, Nat.pow_succ]
          at hlt
        omega
      exact h.sits_of_won hslotNext (hpath (r + 1) (by omega)) (truthy_some.mpr (h.named p hmem))

/-- A match is decided if one of the players whose way leads through it is
    there. -/
theorem AllPlaced.decided (h : AllPlaced ids sheet) (hslot : IsSlot sheet.rounds r j)
    (hunder : 2 ^ (r + 1) * j < ids.length) : truthy (sheet.cell r j).winnerId = true := by
  induction r generalizing j with
  | zero =>
      rw [Nat.zero_add, pow_one] at hunder
      refine h.decided_of_sits (p := ids[2 * j]) hslot (.inl ?_)
      rw [(h.first j hslot).1, List.getElem?_eq_getElem hunder]
  | succ r ih =>
      -- The way of that player leads through the first feeder.
      have hfeeder := (feeders_slot hslot).1
      have hbefore := ih hfeeder (by rw [Nat.pow_succ] at hunder; rwa [← Nat.mul_assoc])
      rcases h.sits_next hfeeder hbefore hslot.1 with ⟨p, -, hsits⟩
      rw [Nat.mul_div_cancel_left _ (by omega)] at hsits
      exact h.decided_of_sits hslot hsits

/-- Two players sit in the first match of every round. -/
theorem AllPlaced.two_sit (h : AllPlaced ids sheet) (hr : r < sheet.rounds) :
    ∃ p q, p ≠ q ∧ sheet.Sits r 0 p ∧ sheet.Sits r 0 q := by
  have hslot := first_slot hr
  cases r with
  | zero =>
      have hfirst := h.first 0 hslot
      have henough := h.enough
      rw [List.getElem?_eq_getElem (by omega), List.getElem?_eq_getElem (by omega)] at hfirst
      refine ⟨ids[0], ids[1], fun hsame => ?_, .inl hfirst.1, .inr hfirst.2⟩
      have hindex := (List.Nodup.getElem_inj_iff h.different).mp hsame
      omega
  | succ r =>
      have hfeeders := feeders_slot hslot
      -- The second feeder has a player under it, since more than half are there.
      have hhalf : 2 ^ (r + 1) < ids.length :=
        Nat.lt_of_le_of_lt (Nat.pow_le_pow_right (by omega) (by omega)) h.half_lt
      have hfirst := h.decided hfeeders.1 (by have := h.enough; omega)
      have hsecond := h.decided hfeeders.2 (by omega)
      rcases h.sits_next hfeeders.1 hfirst hr with ⟨p, hp, hpnext⟩
      rcases h.sits_next hfeeders.2 hsecond hr with ⟨q, hq, hqnext⟩
      refine ⟨p, q, fun hsame => ?_, hpnext, hqnext⟩
      have hindex := h.unique h.different hfeeders.1 hfeeders.2 hp (hsame ▸ hq)
      omega

/-- Somebody loses the first match of every round. -/
theorem AllPlaced.loser (h : AllPlaced ids sheet) (hr : r < sheet.rounds) :
    ∃ p ∈ ids, (sheet.matchOf r 0).loses p = true := by
  have hslot := first_slot hr
  rcases h.two_sit hr with ⟨p, q, hne, hp, hq⟩
  have hdecided := h.decided_of_sits hslot hp
  have hnamed : ∀ {p}, sheet.Sits r 0 p → p ≠ "" := fun hsits => h.named _ (h.mem hslot hsits)
  -- Of the two the one who does not win loses.
  by_cases hwon : (sheet.cell r 0).winnerId = some p
  · refine ⟨q, h.mem hslot hq, h.loses hslot hq (hnamed hq) hdecided fun hq' => hne ?_⟩
    exact Option.some.inj (hwon.symm.trans hq')
  · exact ⟨p, h.mem hslot hp, h.loses hslot hp (hnamed hp) hdecided hwon⟩

/-- Somebody wins the final. -/
theorem AllPlaced.champion (h : AllPlaced ids sheet) :
    ∃ p ∈ ids, (sheet.matchOf (sheet.rounds - 1) 0).wins p = true := by
  have hpos := h.rounds_pos
  have hslot : IsSlot sheet.rounds (sheet.rounds - 1) 0 := first_slot (by omega)
  have hdecided := h.decided hslot (by have := h.enough; omega)
  rcases h.winner_sits hslot hdecided with ⟨p, hmem, hwinner, -⟩
  exact ⟨p, hmem, wins_iff.mpr ⟨hwinner, h.named p hmem⟩⟩

/-- When everybody is placed, the places that are given are those of the
    bracket. -/
theorem AllPlaced.place_iff (h : AllPlaced ids sheet) (place : ℚ) :
    (∃ p ∈ ids, sheet.toBracket.placeOf p = some place) ↔ place ∈ bracketPlaces ids.length := by
  have hpos := h.rounds_pos
  rw [mem_bracketPlaces, ← h.rounds]
  constructor
  · rintro ⟨p, hp, hplace⟩
    rcases ends_of_placed hpos (h.placed p hp) with ⟨r, j, hslot, hlost | ⟨hlast, hwon⟩⟩
    · rw [h.placeOf_loser h.different hslot hlost] at hplace
      exact .inr ⟨r, hslot.1, (Option.some.inj hplace).symm⟩
    · rw [h.placeOf_champion h.different hslot hlast hwon] at hplace
      exact .inl (Option.some.inj hplace).symm
  · -- Every round has a first slot, and its loser has the place of the round.
    rintro (rfl | ⟨r, hr, rfl⟩)
    · rcases h.champion with ⟨p, hp, hwon⟩
      exact ⟨p, hp, h.placeOf_champion h.different (first_slot (by omega)) (by omega) hwon⟩
    · rcases h.loser hr with ⟨p, hp, hlost⟩
      exact ⟨p, hp, h.placeOf_loser h.different (first_slot hr) hlost⟩

end Placed

/-! ### Played to the end -/

/-- The bracket as the call leaves it that decides the final, after a play. -/
def PlayedOut (ids : List String) (recorded : Bracket) : Prop :=
  ∃ bracketType hex played before games,
    Play (generateBracketStructure bracketType hex ids) played (some before) ∧
      before.Accepts games ∧ recorded = recordResults before (games.map Game.result) ∧
      finalDecided recorded = true

theorem PlayedOut.seated {ids : List String} {recorded : Bracket} (h : PlayedOut ids recorded)
    (hids : ids.Nodup) (hnamed : ∀ id ∈ ids, id ≠ "") :
    ∃ sheet : Sheet, recorded = sheet.toBracket ∧ Seated ids sheet := by
  rcases h with ⟨bracketType, hex, played, before, games, hplay, haccepts, rfl, hfinal⟩
  rcases (play_kept hids hnamed hplay).sheet before rfl with ⟨sheet, rfl, hs, -⟩
  refine ⟨settledSheet sheet (games.map Game.result), ?_, hs.call haccepts⟩
  rw [← settledBracket_eq]
  unfold settledBracket
  simp only [hfinal, if_true]

/-- A bracket of a sheet has one final. -/
theorem oneFinal_toBracket {sheet : Sheet} (hpos : 0 < sheet.rounds) :
    sheet.toBracket.OneFinal := by
  have hne : ¬sheet.rounds = 0 := by omega
  refine ⟨sheet.matchOf (sheet.rounds - 1) 0, ?_⟩
  unfold Sheet.toBracket
  rw [List.getLast?_map, List.getLast?_range, if_neg hne]
  simp [Sheet.round]

/-- The places that are given in a bracket that was played to the end and has
    placed everybody. -/
theorem placed_iff {ids : List String} {recorded : Bracket} (h : PlayedOut ids recorded)
    (hids : ids.Nodup) (hnamed : ∀ id ∈ ids, id ≠ "") (henough : 2 ≤ ids.length)
    (hplaced : ∀ id ∈ ids, ((finalPlacements recorded).of id).isSome = true) (place : ℚ) :
    (∃ id ∈ ids, (finalPlacements recorded).of id = some place) ↔
      place ∈ bracketPlaces ids.length := by
  rcases h.seated hids hnamed with ⟨sheet, rfl, hs⟩
  have hpos : 0 < sheet.rounds := by
    rw [hs.rounds]
    exact Nat.clog_pos (by omega) henough
  have hof : ∀ id, (finalPlacements sheet.toBracket).of id = sheet.toBracket.placeOf id :=
    finalPlacements_eq (oneFinal_toBracket hpos)
  simp only [hof] at hplaced ⊢
  exact AllPlaced.place_iff ⟨hs, hids, hnamed, henough, hplaced⟩ place

end Esports

end SvmCourse
