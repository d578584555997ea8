import SvmCourse.Esports.Plays

/-!
# Formats

A tournament is made with a format, and the format is handed to the generator
of the bracket, which does not look at it. So every tournament is played as a
single elimination, in which everybody loses once at most. That is what single
elimination asks for. It is too little for double elimination, whose players go
on after their first loss, and whoever has lost once cannot meet all the others
in a round robin, unless there is only one other.

## Main definitions

* `losses`, `meetings`: What is counted in a play.
* `FollowsFormat`: What each format asks of the plays of a bracket.

## Theorems

* `losses_le_one`, `not_all_meet`: What no play can have.
* `followsFormat_iff`: The formats that are played.
-/

namespace SvmCourse

namespace Esports

open Core

instance (g : Game) (p : String) : Decidable (g.Has p) :=
  inferInstanceAs (Decidable (_ ∨ _))

/-- How many games a player has lost. -/
def losses (played : List Game) (p : String) : Nat := (played.map Game.loser).count p

/-- How many games two players have played with each other. -/
def meetings (played : List Game) (p q : String) : Nat :=
  played.countP fun g => g.Has p ∧ g.Has q

/-- One loss is the end, or two, or everybody plays everybody once. For the
    Swiss format nothing is asked. -/
def FollowsFormat (bracketType : BracketType) (bracket : Bracket) (ids : List String) : Prop :=
  ∀ played state, Play bracket played state → match bracketType with
    | .SINGLE_ELIMINATION => played.Pairwise fun g g' => ¬g'.Has g.loser
    | .DOUBLE_ELIMINATION =>
      Over state → ∀ p ∈ ids, ∀ q ∈ ids, losses played p < 2 → losses played q < 2 → p = q
    | .ROUND_ROBIN => Over state → ∀ p ∈ ids, ∀ q ∈ ids, p ≠ q → meetings played p q = 1
    | .SWISS => True

/-! ### What no play can have -/

section Limits

variable {ids : List String} {played : List Game} {state : Option Bracket}

/-- Everybody loses once at most. -/
theorem losses_le_one (h : PlayKept ids played state) (p : String) : losses played p ≤ 1 := by
  have hnodup : (played.map Game.loser).Nodup := by
    -- Whoever loses twice plays after the first loss.
    unfold List.Nodup
    rw [List.pairwise_map]
    refine h.out.imp_of_mem fun {g g'} _ hg' hout hsame => hout ?_
    rw [hsame]
    exact (g'.has_iff (h.sound g' hg').playable).mpr (.inr rfl)
  exact List.nodup_iff_count_le_one.mp hnodup p

/-- Of three players one is none of two. -/
theorem exists_third (hids : ids.Nodup) (hthree : 3 ≤ ids.length) (a b : String) :
    ∃ c ∈ ids, c ≠ a ∧ c ≠ b := by
  by_contra hnone
  have hsub : ids ⊆ [a, b] := by
    intro c hc
    by_contra hout
    rw [List.mem_pair, not_or] at hout
    exact hnone ⟨c, hc, hout⟩
  have hle := (List.subperm_of_subset hids hsub).length_le
  have htwo : [a, b].length = 2 := rfl
  omega

/-- Three players or more never all meet, since whoever loses the first game
    plays no other. -/
theorem not_all_meet (h : PlayKept ids played state) (hids : ids.Nodup)
    (hthree : 3 ≤ ids.length) :
    ¬∀ p ∈ ids, ∀ q ∈ ids, p ≠ q → meetings played p q = 1 := by
  intro hmeet
  cases played with
  | nil =>
      -- Without a game nobody meets.
      rcases exists_third hids hthree "" "" with ⟨a, ha, -⟩
      rcases exists_third hids hthree a a with ⟨b, hb, hne, -⟩
      exact nomatch hmeet b hb a ha hne
  | cons g rest =>
      have hsound := h.sound g List.mem_cons_self
      have hloser := (g.has_iff hsound.playable).mpr (.inr rfl)
      rcases exists_third hids hthree g.winner g.loser with ⟨c, hc, hnew⟩
      -- The loser of the first game would meet a third player later.
      have hone := hmeet g.loser (hsound.players _ hloser) c hc (Ne.symm hnew.2)
      unfold meetings at hone
      have hsome : 0 < (g :: rest).countP fun g' => g'.Has g.loser ∧ g'.Has c := by omega
      rcases List.countP_pos_iff.mp hsome with ⟨g', hg', hboth⟩
      rw [decide_eq_true_eq] at hboth
      rcases List.mem_cons.mp hg' with rfl | hlater
      · exact ((g'.has_iff hsound.playable).mp hboth.2).elim hnew.1 hnew.2
      · exact List.rel_of_pairwise_cons h.out hlater hboth.1

end Limits

/-! ### Two players -/

section Two

variable {a b : String} {hex : BracketHex} {bracketType : BracketType}

/-- The match of two players. -/
def onlyMatch (hex : BracketHex) (a b : String) : BracketMatch where
  matchId := slotId hex 0 0
  player1Id := some a
  player2Id := some b
  winnerId := none
  status := .pending

theorem onlyMatch_playable (ha : a ≠ "") (hb : b ≠ "") : (onlyMatch hex a b).playable = true := by
  simp [BracketMatch.playable, onlyMatch, truthy_some.mpr ha, truthy_some.mpr hb]

theorem generate_two (ha : a ≠ "") (hb : b ≠ "") :
    generateBracketStructure bracketType hex [a, b] = ⟨[⟨1, [onlyMatch hex a b]⟩]⟩ := by
  have hta := truthy_some.mpr ha
  have htb := truthy_some.mpr hb
  have hrounds : numRounds 2 = 1 := Nat.clog_pow 2 1 (by omega)
  simp [generateBracketStructure, hrounds, bracketRounds, newBracketRound, newBracketMatch,
    orMissing, hta, htb, onlyMatch, slotId]

/-- Either nothing has been played, or the one game and the tournament is
    completed. -/
theorem play_two (ha : a ≠ "") (hb : b ≠ "") {played : List Game} {state : Option Bracket}
    (h : Play ⟨[⟨1, [onlyMatch hex a b]⟩]⟩ played state) :
    played = [] ∧ state = some ⟨[⟨1, [onlyMatch hex a b]⟩]⟩ ∨
      state = none ∧ ∃ g, played = [g] ∧ g.playedMatch = onlyMatch hex a b := by
  have hplayable : Bracket.playable ⟨[⟨1, [onlyMatch hex a b]⟩]⟩ = [onlyMatch hex a b] := by
    simp [Bracket.playable, onlyMatch_playable ha hb]
  induction h with
  | start => exact .inl ⟨rfl, rfl⟩
  | @call played games before _ haccepts ih =>
      -- A call comes before the one game, since the tournament is open.
      rcases ih with ⟨rfl, hbefore⟩ | ⟨hnone, -⟩
      · obtain rfl := Option.some.inj hbefore
        have hgames := haccepts.playable
        simp only [hplayable, List.mem_singleton] at hgames
        cases games with
        | nil => exact .inl ⟨rfl, rfl⟩
        | cons g rest =>
            have hg := hgames g List.mem_cons_self
            have hrest : rest = [] := by
              cases rest with
              | nil => rfl
              | cons g' rest =>
                  -- Both would be games of the one match.
                  have hdifferent := haccepts.different
                  rw [List.map_cons, List.map_cons, List.nodup_cons, List.mem_cons, not_or]
                    at hdifferent
                  have hg' := hgames g' (List.mem_cons_of_mem _ List.mem_cons_self)
                  exact absurd (hg.trans hg'.symm) hdifferent.1.1
            have hname := g.winner_truthy (hg ▸ onlyMatch_playable ha hb)
            refine .inr ⟨?_, g, by rw [hrest]; rfl, hg⟩
            rw [hrest]
            simp [Bracket.afterCall, recordResults, recordResult, recordInRound, Game.result, hg,
              finalDecided, finalMatch, hname]
      · cases hnone

end Two

/-- Two players meet once. -/
theorem roundRobin_two {ids : List String} {hex : BracketHex} {bracketType : BracketType}
    (hlength : ids.length = 2) (hids : ids.Nodup) (hnamed : ∀ id ∈ ids, id ≠ "")
    {played : List Game} {state : Option Bracket}
    (hplay : Play (generateBracketStructure bracketType hex ids) played state)
    (hover : Over state) : ∀ p ∈ ids, ∀ q ∈ ids, p ≠ q → meetings played p q = 1 := by
  obtain ⟨a, b, rfl⟩ := List.length_eq_two.mp hlength
  have ha := hnamed a List.mem_cons_self
  have hb := hnamed b (List.mem_cons_of_mem _ List.mem_cons_self)
  rw [generate_two ha hb] at hplay
  rcases play_two ha hb hplay with ⟨-, hstate⟩ | ⟨-, g, hplayed, hg⟩
  · -- The play cannot be over while their match is open.
    have hnil := hover _ hstate
    simp [Bracket.playable, onlyMatch_playable ha hb] at hnil
  · -- The one game that was played is theirs.
    intro p hp q hq hne
    have hboth : g.Has a ∧ g.Has b := by
      unfold Game.Has
      rw [hg]
      exact ⟨.inl rfl, .inr rfl⟩
    have hhas : ∀ r ∈ [a, b], g.Has r := by
      intro r hr
      rcases List.mem_pair.mp hr with rfl | rfl
      · exact hboth.1
      · exact hboth.2
    unfold meetings
    rw [hplayed, List.countP_singleton, if_pos (decide_eq_true ⟨hhas p hp, hhas q hq⟩)]

/-! ### The formats -/

/-- The bracket of two players or more follows its format if and only if that
    is single elimination, or Swiss, of which nothing is asked, or a round robin
    of two. -/
theorem followsFormat_iff (bracketType : BracketType) (hex : BracketHex) (ids : List String)
    (htwo : 2 ≤ ids.length) (hids : ids.Nodup) (hnamed : ∀ id ∈ ids, id ≠ "") :
    FollowsFormat bracketType (generateBracketStructure bracketType hex ids) ids ↔
      bracketType = .SINGLE_ELIMINATION ∨ bracketType = .SWISS ∨
        bracketType = .ROUND_ROBIN ∧ ids.length = 2 := by
  rcases exists_over bracketType hex ids with ⟨played, state, hplay, hover⟩
  have hkept := play_kept hids hnamed hplay
  cases bracketType with
  | SINGLE_ELIMINATION =>
      exact iff_of_true (fun played state hplay => (play_kept hids hnamed hplay).out) (.inl rfl)
  | SWISS => exact iff_of_true (fun _ _ _ => trivial) (.inr (.inl rfl))
  | DOUBLE_ELIMINATION =>
      -- The first two players are both still in at the end.
      refine iff_of_false (fun hfollows => ?_) (by simp)
      have hfew : ∀ p, losses played p < 2 := fun p => Nat.lt_succ_of_le (losses_le_one hkept p)
      have hsame := hfollows played state hplay hover ids[0] (List.getElem_mem _) ids[1]
        (List.getElem_mem _) (hfew _) (hfew _)
      exact absurd ((List.Nodup.getElem_inj_iff hids).mp hsame) (by decide)
  | ROUND_ROBIN =>
      simp only [reduceCtorEq, false_or, true_and]
      constructor
      · intro hfollows
        by_contra hne
        exact not_all_meet hkept hids (by omega) (hfollows played state hplay hover)
      · intro hlength played state hplay hover
        exact roundRobin_two hlength hids hnamed hplay hover

/-- Three players play a single elimination. -/
theorem followsFormat_iff_three :
    FollowsFormat .SINGLE_ELIMINATION
      (generateBracketStructure .SINGLE_ELIMINATION (fun _ _ => "m") ["a", "b", "c"])
        ["a", "b", "c"] :=
  (followsFormat_iff .SINGLE_ELIMINATION (fun _ _ => "m") ["a", "b", "c"] (by decide) (by decide)
    (by decide)).mpr (.inl rfl)

/-- The games of a first round of four players. -/
def firstGames : List Game :=
  [⟨⟨⟨1, 1, "m"⟩, some "a", some "b", none, .pending⟩, true⟩,
    ⟨⟨⟨1, 2, "m"⟩, some "c", some "d", none, .pending⟩, true⟩]

/-- The final of the two winners. -/
def finalGames : List Game := [⟨⟨⟨2, 1, "m"⟩, some "a", some "c", none, .pending⟩, true⟩]

/-- A double elimination of four players is over after three games, and nobody
    has lost twice. -/
theorem not_followsFormat_double :
    ¬FollowsFormat .DOUBLE_ELIMINATION
      (generateBracketStructure .DOUBLE_ELIMINATION (fun _ _ => "m") ["a", "b", "c", "d"])
        ["a", "b", "c", "d"] := by
  intro hfollows
  -- Two games of the first round, and then the final.
  obtain ⟨between, hfirst, hplayable, hfinal⟩ : ∃ between,
      (generateBracketStructure .DOUBLE_ELIMINATION (fun _ _ => "m")
        ["a", "b", "c", "d"]).afterCall (firstGames.map Game.result) = some between ∧
      between.playable = finalGames.map Game.playedMatch ∧
      between.afterCall (finalGames.map Game.result) = none :=
    ⟨_, rfl, by decide, by decide⟩
  have hfirstAccepts : (generateBracketStructure .DOUBLE_ELIMINATION (fun _ _ => "m")
      ["a", "b", "c", "d"]).Accepts firstGames := ⟨by decide, by decide⟩
  have hplay := Play.call .start hfirstAccepts
  rw [hfirst] at hplay
  have hfinalAccepts : between.Accepts finalGames := by
    refine ⟨by decide, fun g hg => ?_⟩
    rw [hplayable]
    exact List.mem_map_of_mem hg
  have hend := hplay.call hfinalAccepts
  rw [hfinal] at hend
  -- With two losses to go out, somebody would have to play on.
  have hsame := hfollows _ _ hend (fun _ h => nomatch h) "a" (by decide) "c" (by decide)
    (by decide) (by decide)
  exact absurd hsame (by decide)

end Esports

end SvmCourse
