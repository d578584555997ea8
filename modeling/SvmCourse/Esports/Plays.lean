import Mathlib.Data.Finset.Card
import SvmCourse.Esports.Champion

/-!
# Plays of a Bracket

A bracket is played in calls, and each call reports some of the matches that
have two players and no winner, with one of the two as the winner. Any number
of them may be reported at once, in any order, and a match of a round that is
not complete may be left for later.

Whatever the number of players, whoever sits in a later round has won a match
in each round before, on the way up from one place of the first round. A match
that has its winner is never played again, and seats that are taken stay taken.
So whoever has lost does not play again, and no play goes on for ever.

## Main definitions

* `Game`: A match that is played, and who wins it.
* `Bracket.afterCall`: What a call leaves of the bracket.
* `Play`: The games of some calls, one after the other.
* `Over`: The tournament is completed, or nothing can be played.
* `Seated`: Who sits in the matches of a bracket that is being played.

## Theorems

* `advanceRound_afterCall`: A call of the service that goes through.
* `Seated.call`: What a call keeps.
* `play_kept`: Games are between two of the players, and whoever has lost does
  not play again.
* `exists_over`: Every bracket can be played to the end.
-/

namespace SvmCourse

namespace Esports

open Core Core.Prog

/-- A match that is played, and whether the first of its players wins. -/
structure Game where
  playedMatch : BracketMatch
  firstWins : Bool

namespace Game

variable (g : Game)

/-- Who wins the match. -/
def winner : String := winnerOf (fun _ => g.firstWins) g.playedMatch

/-- Who loses it. -/
def loser : String := beaten (fun _ => g.firstWins) g.playedMatch

/-- The result that is reported. -/
def result : BracketResult where
  matchId := g.playedMatch.matchId
  winnerId := g.winner

/-- The player plays in it. -/
def Has (p : String) : Prop := g.playedMatch.player1Id = some p ∨ g.playedMatch.player2Id = some p

end Game

/-- The bracket after a call that goes through, if the tournament is still in
    progress then. -/
def Bracket.afterCall (bracket : Bracket) (results : List BracketResult) : Option Bracket :=
  if finalDecided (recordResults bracket results) then none
  else some (settledBracket bracket results)

/-- The games are different matches that can be played. -/
structure Bracket.Accepts (bracket : Bracket) (games : List Game) : Prop where
  different : (games.map Game.playedMatch).Nodup
  playable : ∀ g ∈ games, g.playedMatch ∈ bracket.playable

/-- The games of some calls one after the other, and the bracket after them, if
    the tournament is still in progress. -/
inductive Play (bracket : Bracket) : List Game → Option Bracket → Prop
  | start : Play bracket [] (some bracket)
  | call {played games : List Game} {before : Bracket} :
      Play bracket played (some before) → before.Accepts games →
        Play bracket (played ++ games) (before.afterCall (games.map Game.result))

/-- The tournament is completed, or no match can be played. -/
def Over (state : Option Bracket) : Prop := ∀ bracket, state = some bracket → bracket.playable = []

/-- A call of the service that goes through leaves this bracket open. -/
theorem advanceRound_afterCall {request : AdvanceRoundRequest} {s t : Db} {x y : Tournament}
    {bracket : Bracket} (hfind : s.tournaments.findOne request.tournamentId = some x)
    (hstatus : x.status = .IN_PROGRESS) (hbracket : x.bracket = some bracket)
    (heval : (advanceRound request).eval s = (.ok y, t)) :
    t.openBracket request.tournamentId = bracket.afterCall request.results := by
  have hkey : x.tournamentId = request.tournamentId := Table.key_of_findOne hfind
  rw [advanceRound_settles request hfind hstatus hbracket] at heval
  unfold settleRound at heval
  unfold Bracket.afterCall settledBracket
  by_cases hfinal : finalDecided (recordResults bracket request.results) = true
  · rw [if_pos hfinal] at heval ⊢
    rcases hcomplete : (completeTournament (completedTournament x
      (recordResults bracket request.results) request.now)).eval s with ⟨r, u⟩
    cases r with
    | error e =>
        -- A payout that throws ends the call.
        rw [bind_eq, eval_bind_error hcomplete] at heval
        exact nomatch heval
    | ok _ =>
        rw [bind_eq, eval_bind_ok hcomplete] at heval
        obtain ⟨-, rfl⟩ : _ ∧ _ = t := Prod.mk.inj heval
        have hrow := Table.findOne_save_self u.tournaments (completedTournament x
          (recordResults bracket request.results) request.now)
        rw [← hkey]
        exact openBracket_none hrow rfl
  · rw [if_neg hfinal] at heval ⊢
    obtain ⟨-, rfl⟩ : _ ∧ _ = t := Prod.mk.inj heval
    have hrow := Table.findOne_save_self s.tournaments
      (advancedTournament x (recordResults bracket request.results))
    rw [← hkey]
    simp only [hfinal, Bool.false_eq_true, if_false]
    exact openBracket_some hrow hstatus rfl

/-! ### Who sits where -/

/-- A player sits in a match. -/
def Sheet.Sits (sheet : Sheet) (r j : Nat) (p : String) : Prop :=
  (sheet.cell r j).player1Id = some p ∨ (sheet.cell r j).player2Id = some p

/-- A seat of a later round is empty or taken by a winner. -/
def TakenBy (seat winner : Option String) : Prop :=
  seat = none ∨ seat = winner ∧ truthy winner = true

/-- In the first round sit the players in their order, and in each later one
    winners of the round before. Winners sit in their matches. -/
structure Seated (ids : List String) (sheet : Sheet) : Prop where
  rounds : sheet.rounds = numRounds ids.length
  first : ∀ j, IsSlot sheet.rounds 0 j →
    (sheet.cell 0 j).player1Id = ids[2 * j]? ∧ (sheet.cell 0 j).player2Id = ids[2 * j + 1]?
  later : ∀ r j, IsSlot sheet.rounds (r + 1) j →
    TakenBy (sheet.cell (r + 1) j).player1Id (sheet.cell r (2 * j)).winnerId ∧
      TakenBy (sheet.cell (r + 1) j).player2Id (sheet.cell r (2 * j + 1)).winnerId
  winner : ∀ r j, IsSlot sheet.rounds r j → truthy (sheet.cell r j).winnerId = true →
    (sheet.cell r j).winnerId = (sheet.cell r j).player1Id ∨
      (sheet.cell r j).winnerId = (sheet.cell r j).player2Id

/-- A new bracket, with its byes. -/
theorem seated_generated (hex : BracketHex) {ids : List String} (hnamed : ∀ id ∈ ids, id ≠ "") :
    Seated ids (generatedSheet hex ids) := by
  have hcons := generated_consistent .SINGLE_ELIMINATION hex ids
  rw [generate_eq, consistent_iff] at hcons
  -- All players have names, so the generator takes none of them for missing.
  have hkept : ∀ i : Nat, orMissing ids[i]? = ids[i]? := by
    intro i
    by_cases hi : i < ids.length
    · rw [List.getElem?_eq_getElem hi]
      exact orMissing_of_truthy (truthy_some.mpr (hnamed _ (List.getElem_mem hi)))
    · rw [List.getElem?_eq_none (by omega)]
      rfl
  have htaken : ∀ winner, TakenBy (orMissing (orMissing winner)) winner := by
    intro winner
    rw [orMissing_orMissing]
    by_cases h : truthy winner = true
    · exact .inr ⟨orMissing_of_truthy h, h⟩
    · rw [Bool.not_eq_true] at h
      exact .inl (orMissing_of_not h)
  exact ⟨rfl, fun j _ => ⟨hkept _, hkept _⟩, fun r j _ => ⟨htaken _, htaken _⟩, hcons.1⟩

section Seats

variable {ids : List String} {sheet : Sheet} {r j : Nat} {p : String}

theorem Seated.sits_of_won (h : Seated ids sheet) (hslot : IsSlot sheet.rounds r j)
    (hwon : (sheet.cell r j).winnerId = some p) (hname : truthy (some p) = true) :
    sheet.Sits r j p := by
  rcases h.winner r j hslot (by rw [hwon]; exact hname) with hseat | hseat
  · exact .inl (hseat.symm.trans hwon)
  · exact .inr (hseat.symm.trans hwon)

/-- Whoever sits in a match comes from one place of the first round, and has won
    all matches on the way. -/
theorem Seated.path (h : Seated ids sheet) (hslot : IsSlot sheet.rounds r j)
    (hsits : sheet.Sits r j p) : ∃ i, ids[i]? = some p ∧ i / 2 ^ (r + 1) = j ∧
      ∀ q < r, (sheet.cell q (i / 2 ^ (q + 1))).winnerId = some p := by
  induction r generalizing j with
  | zero =>
      have hfirst := h.first j hslot
      rcases hsits with hseat | hseat
      · exact ⟨2 * j, hfirst.1.symm.trans hseat, by omega, fun q hq => absurd hq (by omega)⟩
      · exact ⟨2 * j + 1, hfirst.2.symm.trans hseat, by omega, fun q hq => absurd hq (by omega)⟩
  | succ r ih =>
      have hfeeders := feeders_slot hslot
      have hlater := h.later r j hslot
      -- The match from which the player came, and that the player won it.
      obtain ⟨i, hi, hfed, hwon⟩ : ∃ i, i / 2 = j ∧ IsSlot sheet.rounds r i ∧
          (sheet.cell r i).winnerId = some p ∧ truthy (some p) = true := by
        rcases hsits with hseat | hseat
        · rcases hlater.1 with hnone | ⟨hwinner, hname⟩
          · exact nomatch hnone.symm.trans hseat
          · have hwon := hwinner.symm.trans hseat
            exact ⟨2 * j, by omega, hfeeders.1, hwon, hwon ▸ hname⟩
        · rcases hlater.2 with hnone | ⟨hwinner, hname⟩
          · exact nomatch hnone.symm.trans hseat
          · have hwon := hwinner.symm.trans hseat
            exact ⟨2 * j + 1, by omega, hfeeders.2, hwon, hwon ▸ hname⟩
      rcases ih hfed (h.sits_of_won hfed hwon.1 hwon.2) with ⟨e, he, hplace, hpath⟩
      refine ⟨e, he, ?_, fun q hq => ?_⟩
      · rw [Nat.pow_succ, ← Nat.div_div_eq_div_mul, hplace, hi]
      · by_cases hlast : q = r
        · rw [hlast, hplace]
          exact hwon.1
        · exact hpath q (by omega)

theorem Seated.mem (h : Seated ids sheet) (hslot : IsSlot sheet.rounds r j)
    (hsits : sheet.Sits r j p) : p ∈ ids := by
  rcases h.path hslot hsits with ⟨i, hi, -⟩
  exact List.mem_of_getElem? hi

/-- Nobody has two places in the first round. -/
theorem place_unique (hids : ids.Nodup) {i i' : Nat} (hi : ids[i]? = some p)
    (hi' : ids[i']? = some p) : i = i' := by
  rcases List.getElem?_eq_some_iff.mp hi with ⟨hlt, hp⟩
  rcases List.getElem?_eq_some_iff.mp hi' with ⟨hlt', hp'⟩
  exact (List.Nodup.getElem_inj_iff hids).mp (hp.trans hp'.symm)

/-- A player sits in one match of a round. -/
theorem Seated.unique (h : Seated ids sheet) (hids : ids.Nodup) {j' : Nat}
    (hslot : IsSlot sheet.rounds r j) (hslot' : IsSlot sheet.rounds r j')
    (hsits : sheet.Sits r j p) (hsits' : sheet.Sits r j' p) : j = j' := by
  rcases h.path hslot hsits with ⟨i, hi, hplace, -⟩
  rcases h.path hslot' hsits' with ⟨i', hi', hplace', -⟩
  rw [← hplace, ← hplace', place_unique hids hi hi']

/-- Whoever sits in a later round has won the matches before. -/
theorem Seated.won (h : Seated ids sheet) (hids : ids.Nodup) {r' j' : Nat} (hr : r < r')
    (hslot : IsSlot sheet.rounds r j) (hslot' : IsSlot sheet.rounds r' j')
    (hsits : sheet.Sits r j p) (hsits' : sheet.Sits r' j' p) :
    (sheet.cell r j).winnerId = some p := by
  rcases h.path hslot hsits with ⟨i, hi, hplace, -⟩
  rcases h.path hslot' hsits' with ⟨i', hi', -, hpath⟩
  have hwon := hpath r hr
  rwa [place_unique hids hi' hi, hplace] at hwon

/-- The two players of a match are different. -/
theorem Seated.different (h : Seated ids sheet) (hids : ids.Nodup)
    (hslot : IsSlot sheet.rounds r j) (h1 : (sheet.cell r j).player1Id = some p) :
    (sheet.cell r j).player2Id ≠ some p := by
  intro h2
  cases r with
  | zero =>
      have hfirst := h.first j hslot
      have hsame := place_unique hids (hfirst.1.symm.trans h1) (hfirst.2.symm.trans h2)
      omega
  | succ r =>
      have hfeeders := feeders_slot hslot
      -- Both matches before would have been won by the same player.
      have hsat : ∀ {seat i}, IsSlot sheet.rounds r i → seat = some p →
          TakenBy seat (sheet.cell r i).winnerId → sheet.Sits r i p := by
        intro seat i hfed hseat htaken
        rcases htaken with hnone | ⟨hwinner, hname⟩
        · exact nomatch hnone.symm.trans hseat
        · have hwon := hwinner.symm.trans hseat
          exact h.sits_of_won hfed hwon (hwon ▸ hname)
      have hlater := h.later r j hslot
      have hsame := h.unique hids hfeeders.1 hfeeders.2 (hsat hfeeders.1 h1 hlater.1)
        (hsat hfeeders.2 h2 hlater.2)
      omega

end Seats

/-! ### One call -/

theorem mem_playable {sheet : Sheet} {m : BracketMatch} : m ∈ sheet.toBracket.playable ↔
    ∃ r j, IsSlot sheet.rounds r j ∧ m = sheet.matchOf r j ∧ m.playable = true := by
  unfold Bracket.playable Sheet.toBracket
  simp only [List.mem_flatMap, List.mem_map, List.mem_range, List.mem_filter]
  constructor
  · rintro ⟨_, ⟨r, hr, rfl⟩, hm, hplayable⟩
    rcases List.mem_map.mp hm with ⟨j, hj, rfl⟩
    exact ⟨r, j, ⟨hr, List.mem_range.mp hj⟩, rfl, hplayable⟩
  · rintro ⟨r, j, hslot, rfl, hplayable⟩
    exact ⟨_, ⟨r, hslot.1, rfl⟩, List.mem_map.mpr ⟨j, List.mem_range.mpr hslot.2, rfl⟩, hplayable⟩

/-- The two players of a game are its winner and its loser. -/
theorem Game.sides {g : Game} (h : g.playedMatch.playable = true) :
    g.playedMatch.player1Id = some g.winner ∧ g.playedMatch.player2Id = some g.loser ∨
      g.playedMatch.player1Id = some g.loser ∧ g.playedMatch.player2Id = some g.winner := by
  unfold BracketMatch.playable at h
  rw [Bool.and_eq_true, Bool.and_eq_true] at h
  have hsome : ∀ o : Option String, truthy o = true → o = some (o.getD "") := by
    intro o ho
    cases o with
    | none => exact nomatch ho
    | some text => rfl
  unfold Game.winner Game.loser winnerOf beaten
  cases g.firstWins with
  | true => exact .inl ⟨hsome _ h.1.1, hsome _ h.1.2⟩
  | false => exact .inr ⟨hsome _ h.1.1, hsome _ h.1.2⟩

theorem Game.has_iff {g : Game} (h : g.playedMatch.playable = true) {p : String} :
    g.Has p ↔ p = g.winner ∨ p = g.loser := by
  unfold Game.Has
  rcases g.sides h with ⟨h1, h2⟩ | ⟨h1, h2⟩
  · rw [h1, h2, Option.some.injEq, Option.some.injEq, eq_comm, eq_comm (a := g.loser)]
  · rw [h1, h2, Option.some.injEq, Option.some.injEq, or_comm, eq_comm, eq_comm (a := g.loser)]

/-- Whoever plays has a name. -/
theorem Game.truthy_of_has {g : Game} (h : g.playedMatch.playable = true) {p : String}
    (hp : g.Has p) : truthy (some p) = true := by
  unfold BracketMatch.playable at h
  rw [Bool.and_eq_true, Bool.and_eq_true] at h
  rcases hp with hp | hp
  · rw [← hp]
    exact h.1.1
  · rw [← hp]
    exact h.1.2

theorem Game.winner_truthy {g : Game} (h : g.playedMatch.playable = true) :
    truthy (some g.winner) = true := g.truthy_of_has h ((g.has_iff h).mpr (.inl rfl))

/-- What the results of some games say about a match. -/
theorem reported_games (games : List Game) (m : BracketMatch) :
    (∃ g ∈ games, g.playedMatch.matchId = m.matchId ∧
      reported (games.map Game.result) m = some g.winner) ∨
    reported (games.map Game.result) m = none ∧
      ∀ g ∈ games, g.playedMatch.matchId ≠ m.matchId := by
  unfold reported
  cases hfind : (games.map Game.result).reverse.find? fun result => result.matchId = m.matchId with
  | none =>
      refine .inr ⟨rfl, fun g hg hid => ?_⟩
      have hnone := List.find?_eq_none.mp hfind g.result
        (List.mem_reverse.mpr (List.mem_map_of_mem hg))
      exact hnone (decide_eq_true hid)
  | some result =>
      -- Of several results for the match the last one counts.
      rcases List.mem_map.mp (List.mem_reverse.mp (List.mem_of_find?_eq_some hfind)) with
        ⟨g, hg, rfl⟩
      have hid := List.find?_some hfind
      exact .inl ⟨g, hg, of_decide_eq_true hid, rfl⟩

section Call

variable {ids : List String} {sheet : Sheet} {games : List Game} {r j : Nat}

theorem open_of_playable (h : (sheet.matchOf r j).playable = true) :
    truthy (sheet.cell r j).winnerId = false := by
  unfold BracketMatch.playable at h
  rw [Bool.and_eq_true, Bool.not_eq_true'] at h
  exact h.2

/-- A game with the id of a match is a game of that match, which can be
    played. -/
theorem accepts_match (h : sheet.toBracket.Accepts games) {g : Game} (hg : g ∈ games)
    (hid : g.playedMatch.matchId = (sheet.matchOf r j).matchId) :
    g.playedMatch = sheet.matchOf r j ∧ g.playedMatch.playable = true := by
  rcases mem_playable.mp (h.playable g hg) with ⟨q, i, -, hm, hplayable⟩
  rw [hm] at hid
  rcases slotId_inj hid with ⟨rfl, rfl⟩
  exact ⟨hm, hplayable⟩

/-- A match has the winner that it had, or that of its game. -/
theorem winnerAfter_cases (h : sheet.toBracket.Accepts games) (r j : Nat) :
    winnerAfter (games.map Game.result) (sheet.matchOf r j) = (sheet.cell r j).winnerId ∨
      ∃ g ∈ games, g.playedMatch = sheet.matchOf r j ∧ g.playedMatch.playable = true ∧
        winnerAfter (games.map Game.result) (sheet.matchOf r j) = some g.winner := by
  unfold winnerAfter
  rcases reported_games games (sheet.matchOf r j) with ⟨g, hg, hid, hreported⟩ | ⟨hnone, -⟩
  · rw [hreported]
    have hmatch := accepts_match h hg hid
    exact .inr ⟨g, hg, hmatch.1, hmatch.2, rfl⟩
  · rw [hnone]
    exact .inl rfl

/-- A match that has been won is not played again. -/
theorem winnerAfter_kept (h : sheet.toBracket.Accepts games)
    (hwon : truthy (sheet.cell r j).winnerId = true) :
    winnerAfter (games.map Game.result) (sheet.matchOf r j) = (sheet.cell r j).winnerId := by
  rcases winnerAfter_cases h r j with hsame | ⟨g, -, hmatch, hplayable, -⟩
  · exact hsame
  · have hopen := open_of_playable (hmatch ▸ hplayable)
    exact absurd (hopen.symm.trans hwon) Bool.false_ne_true

/-- A match that is played has the winner of its game. -/
theorem winnerAfter_game (h : sheet.toBracket.Accepts games) {g : Game} (hg : g ∈ games)
    (hmatch : g.playedMatch = sheet.matchOf r j) :
    winnerAfter (games.map Game.result) (sheet.matchOf r j) = some g.winner := by
  unfold winnerAfter
  rcases reported_games games (sheet.matchOf r j) with ⟨g', hg', hid, hreported⟩ | ⟨-, hnone⟩
  · rw [hreported]
    have hsame := hmatch.trans (accepts_match h hg' hid).1.symm
    rw [List.inj_on_of_nodup_map h.different hg hg' hsame]
  · exact absurd (congrArg BracketMatch.matchId hmatch) (hnone g hg)

/-- Seats that are taken stay taken by the same players. -/
theorem Seated.kept (hs : Seated ids sheet) (h : sheet.toBracket.Accepts games)
    (hslot : IsSlot sheet.rounds r j) :
    ((sheet.cell r j).player1Id ≠ none →
      ((settledSheet sheet (games.map Game.result)).cell r j).player1Id =
        (sheet.cell r j).player1Id) ∧
    ((sheet.cell r j).player2Id ≠ none →
      ((settledSheet sheet (games.map Game.result)).cell r j).player2Id =
        (sheet.cell r j).player2Id) := by
  by_cases hfill : Refills sheet.toBracket (games.map Game.result) r
  · cases r with
    | zero => exact hfill.elim
    | succ r =>
        -- A seat that was taken before is filled with the same winner again.
        have hseats := settledSheet_filled hslot hfill
        have hlater := hs.later r j hslot
        rw [hseats.1, hseats.2]
        constructor
        · intro hne
          rcases hlater.1 with hnone | ⟨hwinner, hname⟩
          · exact absurd hnone hne
          · rw [winnerAfter_kept h hname, hwinner]
        · intro hne
          rcases hlater.2 with hnone | ⟨hwinner, hname⟩
          · exact absurd hnone hne
          · rw [winnerAfter_kept h hname, hwinner]
  · have hseats := settledSheet_seats hslot hfill
    exact ⟨fun _ => hseats.1, fun _ => hseats.2⟩

/-- A call keeps everybody seated like this. -/
theorem Seated.call (hs : Seated ids sheet) (h : sheet.toBracket.Accepts games) :
    Seated ids (settledSheet sheet (games.map Game.result)) := by
  have hrounds : (settledSheet sheet (games.map Game.result)).rounds = sheet.rounds :=
    settledSheet_rounds
  have htaken : ∀ {r j seat}, TakenBy seat (sheet.cell r j).winnerId →
      TakenBy seat ((settledSheet sheet (games.map Game.result)).cell r j).winnerId := by
    intro r j seat hold
    refine hold.imp id fun hwon => ?_
    rw [settledSheet_winnerId, winnerAfter_kept h hwon.2]
    exact hwon
  refine ⟨hrounds.trans hs.rounds, fun j hslot => ?_, fun r j hslot => ?_,
    fun r j hslot hwon => ?_⟩
  · -- No round comes before the first one.
    rw [hrounds] at hslot
    have hfirst : ¬Refills sheet.toBracket (games.map Game.result) 0 := id
    have hseats := settledSheet_seats hslot hfirst
    rw [hseats.1, hseats.2]
    exact hs.first j hslot
  · rw [hrounds] at hslot
    have hfeeders := feeders_slot hslot
    by_cases hfill : Refills sheet.toBracket (games.map Game.result) (r + 1)
    · -- The winners of the complete round take the seats.
      have hseats := settledSheet_filled hslot hfill
      rw [settledSheet_winnerId, settledSheet_winnerId]
      exact ⟨.inr ⟨hseats.1, hfill.2 _ _ (matchAt_slot hfeeders.1)⟩,
        .inr ⟨hseats.2, hfill.2 _ _ (matchAt_slot hfeeders.2)⟩⟩
    · have hseats := settledSheet_seats hslot hfill
      rw [hseats.1, hseats.2]
      exact ⟨htaken (hs.later r j hslot).1, htaken (hs.later r j hslot).2⟩
  · rw [hrounds] at hslot
    have hkept := hs.kept h hslot
    have htruthy : ∀ {seat : Option String}, truthy seat = true → seat ≠ none := by
      intro seat hseat hnone
      rw [hnone] at hseat
      exact nomatch hseat
    rw [settledSheet_winnerId] at hwon ⊢
    -- The winner is an old one or that of a game, and both keep their seats.
    rcases winnerAfter_cases h r j with hsame | ⟨g, -, hmatch, hplayable, hwinner⟩
    · rw [hsame] at hwon ⊢
      rcases hs.winner r j hslot hwon with hseat | hseat
      · exact .inl (hseat.trans (hkept.1 (htruthy (hseat ▸ hwon))).symm)
      · exact .inr (hseat.trans (hkept.2 (htruthy (hseat ▸ hwon))).symm)
    · rw [hwinner]
      have hsides := g.sides hplayable
      rw [hmatch] at hsides
      rcases hsides with ⟨h1, -⟩ | ⟨-, h2⟩
      · have h1' : (sheet.cell r j).player1Id = some g.winner := h1
        exact .inl ((hkept.1 (by rw [h1']; exact Option.some_ne_none _)).trans h1').symm
      · have h2' : (sheet.cell r j).player2Id = some g.winner := h2
        exact .inr ((hkept.2 (by rw [h2']; exact Option.some_ne_none _)).trans h2').symm

/-- The two players of a game stay in their seats. -/
theorem Seated.kept_players (hs : Seated ids sheet) (h : sheet.toBracket.Accepts games)
    (hslot : IsSlot sheet.rounds r j) {g : Game} (hplayable : g.playedMatch.playable = true)
    (h1 : (sheet.cell r j).player1Id = g.playedMatch.player1Id)
    (h2 : (sheet.cell r j).player2Id = g.playedMatch.player2Id) :
    ((settledSheet sheet (games.map Game.result)).cell r j).player1Id = g.playedMatch.player1Id ∧
      ((settledSheet sheet (games.map Game.result)).cell r j).player2Id =
        g.playedMatch.player2Id := by
  have hkept := hs.kept h hslot
  rw [h1, h2] at hkept
  rcases g.sides hplayable with ⟨hp1, hp2⟩ | ⟨hp1, hp2⟩
  · exact ⟨hkept.1 (by rw [hp1]; exact Option.some_ne_none _),
      hkept.2 (by rw [hp2]; exact Option.some_ne_none _)⟩
  · exact ⟨hkept.1 (by rw [hp1]; exact Option.some_ne_none _),
      hkept.2 (by rw [hp2]; exact Option.some_ne_none _)⟩

/-- The game's match has its players and its winner. -/
def Sheet.Done (sheet : Sheet) (g : Game) : Prop :=
  ∃ r j, IsSlot sheet.rounds r j ∧ (sheet.cell r j).player1Id = g.playedMatch.player1Id ∧
    (sheet.cell r j).player2Id = g.playedMatch.player2Id ∧
    (sheet.cell r j).winnerId = some g.winner

/-- What has been played stays as it is. -/
theorem Sheet.Done.call (hs : Seated ids sheet) (h : sheet.toBracket.Accepts games) {g : Game}
    (hplayable : g.playedMatch.playable = true) (hdone : sheet.Done g) :
    (settledSheet sheet (games.map Game.result)).Done g := by
  rcases hdone with ⟨r, j, hslot, h1, h2, hwinner⟩
  have hseats := hs.kept_players h hslot hplayable h1 h2
  refine ⟨r, j, ?_, hseats.1, hseats.2, ?_⟩
  · rw [settledSheet_rounds]
    exact hslot
  · rw [settledSheet_winnerId,
      winnerAfter_kept h (by rw [hwinner]; exact g.winner_truthy hplayable),
      hwinner]

/-- What is played is done. -/
theorem Sheet.done_game (hs : Seated ids sheet) (h : sheet.toBracket.Accepts games) {g : Game}
    (hg : g ∈ games) : (settledSheet sheet (games.map Game.result)).Done g := by
  rcases mem_playable.mp (h.playable g hg) with ⟨r, j, hslot, hmatch, hplayable⟩
  have hseats := hs.kept_players h hslot hplayable (by rw [hmatch]; rfl) (by rw [hmatch]; rfl)
  refine ⟨r, j, ?_, hseats.1, hseats.2, ?_⟩
  · rw [settledSheet_rounds]
    exact hslot
  · rw [settledSheet_winnerId, winnerAfter_game h hg hmatch]

end Call

/-! ### Whole plays -/

/-- A game is a match of the bracket between two different players. -/
structure Game.Sound (ids : List String) (g : Game) : Prop where
  playable : g.playedMatch.playable = true
  players : ∀ p, g.Has p → p ∈ ids
  different : g.winner ≠ g.loser
  round : 1 ≤ g.playedMatch.matchId.round ∧ g.playedMatch.matchId.round ≤ numRounds ids.length

section Games

variable {ids : List String} {sheet : Sheet} {games : List Game}

theorem Seated.sound (hs : Seated ids sheet) (hids : ids.Nodup)
    (h : sheet.toBracket.Accepts games) {g : Game} (hg : g ∈ games) : g.Sound ids := by
  rcases mem_playable.mp (h.playable g hg) with ⟨r, j, hslot, hmatch, hplayable⟩
  -- The game is the match in its slot, so its players are those who sit there.
  have hsits : ∀ p, g.Has p → sheet.Sits r j p := by
    intro p hp
    unfold Game.Has at hp
    rwa [hmatch] at hp
  refine ⟨hplayable, fun p hp => hs.mem hslot (hsits p hp), fun hsame => ?_, ?_⟩
  · rcases g.sides hplayable with ⟨h1, h2⟩ | ⟨h1, h2⟩ <;> rw [hmatch] at h1 h2
    · exact hs.different hids hslot h1 (hsame ▸ h2)
    · exact hs.different hids hslot h1 (hsame ▸ h2)
  · rw [hmatch, ← hs.rounds]
    have hr := hslot.1
    exact ⟨Nat.le_add_left 1 r, hr⟩

/-- A player sits in one match that has not been won yet. -/
theorem Seated.apart (hs : Seated ids sheet) (hids : ids.Nodup) {r j r' j' : Nat} {p : String}
    (hslot : IsSlot sheet.rounds r j) (hslot' : IsSlot sheet.rounds r' j')
    (hsits : sheet.Sits r j p) (hsits' : sheet.Sits r' j' p) (hname : truthy (some p) = true)
    (hopen : truthy (sheet.cell r j).winnerId = false)
    (hopen' : truthy (sheet.cell r' j').winnerId = false) : r = r' ∧ j = j' := by
  rcases Nat.lt_trichotomy r r' with hlt | rfl | hlt
  · -- Going on means that the earlier match was won.
    rw [hs.won hids hlt hslot hslot' hsits hsits', hname] at hopen
    exact nomatch hopen
  · exact ⟨rfl, hs.unique hids hslot hslot' hsits hsits'⟩
  · rw [hs.won hids hlt hslot' hslot hsits' hsits, hname] at hopen'
    exact nomatch hopen'

/-- In one call everybody plays once. -/
theorem Seated.pairwise (hs : Seated ids sheet) (hids : ids.Nodup)
    (h : sheet.toBracket.Accepts games) : games.Pairwise fun g g' => ¬g'.Has g.loser := by
  have hdifferent := h.different
  unfold List.Nodup at hdifferent
  rw [List.pairwise_map] at hdifferent
  -- A player of two games would sit in two open matches.
  refine hdifferent.imp_of_mem fun {g g'} hg hg' hne hhas => hne ?_
  rcases mem_playable.mp (h.playable g hg) with ⟨r, j, hslot, hmatch, hplayable⟩
  rcases mem_playable.mp (h.playable g' hg') with ⟨r', j', hslot', hmatch', hplayable'⟩
  have hname := g'.truthy_of_has hplayable' hhas
  have hloser := (g.has_iff hplayable).mpr (.inr rfl)
  unfold Game.Has at hhas hloser
  rw [hmatch] at hloser hplayable
  rw [hmatch'] at hhas hplayable'
  obtain ⟨rfl, rfl⟩ := hs.apart hids hslot hslot' hloser hhas hname (open_of_playable hplayable)
    (open_of_playable hplayable')
  rw [hmatch, hmatch']

/-- Whoever has lost does not play in a later call. -/
theorem Seated.out (hs : Seated ids sheet) (hids : ids.Nodup) (h : sheet.toBracket.Accepts games)
    {g g' : Game} (hsound : g.Sound ids) (hdone : sheet.Done g) (hg' : g' ∈ games) :
    ¬g'.Has g.loser := by
  intro hhas
  rcases hdone with ⟨r, j, hslot, h1, h2, hwinner⟩
  rcases mem_playable.mp (h.playable g' hg') with ⟨r', j', hslot', hmatch, hplayable⟩
  have hname := g'.truthy_of_has hplayable hhas
  have hloser := (g.has_iff hsound.playable).mpr (.inr rfl)
  unfold Game.Has at hhas hloser
  rw [hmatch] at hhas hplayable
  rw [← h1, ← h2] at hloser
  have hopen := open_of_playable hplayable
  rcases Nat.lt_trichotomy r r' with hlt | rfl | hlt
  · -- The loser would have won the game.
    have hwon := hs.won hids hlt hslot hslot' hloser hhas
    exact hsound.different (Option.some.inj (hwinner.symm.trans hwon))
  · obtain rfl := hs.unique hids hslot hslot' hloser hhas
    rw [hwinner, g.winner_truthy hsound.playable] at hopen
    exact nomatch hopen
  · rw [hs.won hids hlt hslot' hslot hhas hloser, hname] at hopen
    exact nomatch hopen

end Games

/-- What is kept by every call of a play. -/
structure PlayKept (ids : List String) (played : List Game) (state : Option Bracket) : Prop where
  sheet : ∀ bracket, state = some bracket →
    ∃ sheet : Sheet, bracket = sheet.toBracket ∧ Seated ids sheet ∧ ∀ g ∈ played, sheet.Done g
  sound : ∀ g ∈ played, g.Sound ids
  out : played.Pairwise fun g g' => ¬g'.Has g.loser

section Plays

variable {ids : List String} {hex : BracketHex} {bracketType : BracketType} {played : List Game}
  {state : Option Bracket}

theorem PlayKept.call {before : Bracket} {games : List Game} (hids : ids.Nodup)
    (h : PlayKept ids played (some before)) (haccepts : before.Accepts games) :
    PlayKept ids (played ++ games) (before.afterCall (games.map Game.result)) := by
  rcases h.sheet before rfl with ⟨sheet, rfl, hs, hdone⟩
  have hsound : ∀ g ∈ played ++ games, g.Sound ids := by
    intro g hg
    rcases List.mem_append.mp hg with hg | hg
    · exact h.sound g hg
    · exact hs.sound hids haccepts hg
  refine ⟨fun after hafter => ?_, hsound, ?_⟩
  · -- The bracket after the call, if it is still open, and the games it shows.
    unfold Bracket.afterCall at hafter
    split at hafter
    · exact nomatch hafter
    · rw [settledBracket_eq] at hafter
      refine ⟨_, (Option.some.inj hafter).symm, hs.call haccepts, fun g hg => ?_⟩
      rcases List.mem_append.mp hg with hg | hg
      · exact Sheet.Done.call hs haccepts (h.sound g hg).playable (hdone g hg)
      · exact Sheet.done_game hs haccepts hg
  · -- A player who lost in an earlier game is in none of the new ones.
    rw [List.pairwise_append]
    refine ⟨h.out, hs.pairwise hids haccepts, fun g hg g' hg' => ?_⟩
    exact hs.out hids haccepts (h.sound g hg) (hdone g hg) hg'

/-- In every play of a bracket, however many players there are. -/
theorem play_kept (hids : ids.Nodup) (hnamed : ∀ id ∈ ids, id ≠ "")
    (h : Play (generateBracketStructure bracketType hex ids) played state) :
    PlayKept ids played state := by
  induction h with
  | start =>
      refine ⟨fun bracket hbracket => ?_, fun g hg => (nomatch hg), List.Pairwise.nil⟩
      rw [generate_eq] at hbracket
      exact ⟨_, (Option.some.inj hbracket).symm, seated_generated hex hnamed,
        fun g hg => nomatch hg⟩
  | call _ haccepts ih => exact ih.call hids haccepts

/-- The matches that have no winner yet. -/
def Sheet.undecided (sheet : Sheet) : Finset (Nat × Nat) :=
  (slotsBefore sheet.rounds sheet.rounds).toFinset.filter fun m =>
    truthy (sheet.cell m.1 m.2).winnerId = false

theorem mem_undecided {sheet : Sheet} {m : Nat × Nat} : m ∈ sheet.undecided ↔
    IsSlot sheet.rounds m.1 m.2 ∧ truthy (sheet.cell m.1 m.2).winnerId = false := by
  unfold Sheet.undecided
  rw [Finset.mem_filter, List.mem_toFinset, mem_slotsBefore]
  rfl

/-- A game that is played leaves fewer matches undecided. -/
theorem undecided_call {sheet : Sheet} {games : List Game} (h : sheet.toBracket.Accepts games)
    {g : Game} (hg : g ∈ games) :
    (settledSheet sheet (games.map Game.result)).undecided.card < sheet.undecided.card := by
  rcases mem_playable.mp (h.playable g hg) with ⟨r, j, hslot, hmatch, hplayable⟩
  refine Finset.card_lt_card ((Finset.ssubset_iff_of_subset fun m hm => ?_).mpr
    ⟨(r, j), mem_undecided.mpr ⟨hslot, open_of_playable (hmatch ▸ hplayable)⟩, fun hm => ?_⟩)
  · -- No match loses its winner.
    rw [mem_undecided, settledSheet_winnerId, settledSheet_rounds] at hm
    refine mem_undecided.mpr ⟨hm.1, ?_⟩
    by_contra hwon
    rw [Bool.not_eq_false] at hwon
    rw [winnerAfter_kept h hwon, hwon] at hm
    exact nomatch hm.2
  · rw [mem_undecided, settledSheet_winnerId, winnerAfter_game h hg hmatch,
      g.winner_truthy hplayable] at hm
    exact nomatch hm.2

/-- From wherever a play has come it can be played to the end, since every game
    decides one more match. -/
theorem exists_over_from {bracket : Bracket} (sheet : Sheet)
    (h : Play bracket played (some sheet.toBracket)) :
    ∃ played state, Play bracket played state ∧ Over state := by
  induction hn : sheet.undecided.card using Nat.strong_induction_on generalizing sheet played with
  | _ n ih =>
    cases hplayable : sheet.toBracket.playable with
    | nil =>
        refine ⟨_, _, h, fun bracket hbracket => ?_⟩
        rw [← Option.some.inj hbracket]
        exact hplayable
    | cons m rest =>
        -- One call with one match, which its first player wins.
        have haccepts : sheet.toBracket.Accepts [⟨m, true⟩] := by
          refine ⟨List.nodup_singleton _, fun g hg => ?_⟩
          rw [List.mem_singleton.mp hg, hplayable]
          exact List.mem_cons_self
        have hcall := h.call haccepts
        unfold Bracket.afterCall at hcall
        split at hcall
        · exact ⟨_, _, hcall, fun bracket hbracket => nomatch hbracket⟩
        · rw [settledBracket_eq] at hcall
          exact ih _ (hn ▸ undecided_call haccepts (List.mem_singleton_self _)) _ hcall rfl

/-- Every bracket can be played to the end. -/
theorem exists_over (bracketType : BracketType) (hex : BracketHex) (ids : List String) :
    ∃ played state, Play (generateBracketStructure bracketType hex ids) played state ∧
      Over state := by
  rw [generate_eq]
  exact exists_over_from (generatedSheet hex ids) .start

end Plays

end Esports

end SvmCourse
