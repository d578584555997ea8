import Mathlib.Data.Nat.Log
import SvmCourse.Esports.Entities

/-!
# Brackets

The pure part of the tournament service: building a bracket from a list of
players, recording reported results in it, moving winners on, and reading the
final placements off it. None of these touches the store.

The three functions write winners under different conditions. Building and
moving on give a match to its only player, as a bye. Recording takes whatever
winner the report names. Moving on looks at each round in turn and acts when
every match of it has a winner, which includes rounds completed long ago, so
it writes the players of a later round again on every call.

An empty string is a missing player or winner wherever the source tests for
one.

## Main definitions

* `numRounds`: The rounds of a bracket for a number of players.
* `generateBracketStructure`: The bracket for a list of players.
* `recordResult`, `recordResults`: Writing reported winners.
* `advanceWinnersToNextRound`: Filling rounds from the rounds before.
* `finalMatch`, `finalDecided`: The match whose winner ends the tournament.
* `finalPlacements`: Placements by player.

## Theorems

* `le_two_pow_numRounds`: The padded size holds every player.
-/

namespace SvmCourse

namespace Esports

open Core

/-- `Math.ceil(Math.log2(n))`. For no players the source computes a negative
    infinity and builds no round, and so does this. -/
def numRounds (n : Nat) : Nat := Nat.clog 2 n

theorem le_two_pow_numRounds (n : Nat) : n ≤ 2 ^ numRounds n :=
  Nat.le_pow_clog (by omega) n

/-! ### Building -/

/-- A match with one player is a bye for that player. -/
def newBracketMatch (matchId : BracketMatchId) (player1 player2 : Option String) :
    BracketMatch where
  matchId := matchId
  player1Id := orMissing player1
  player2Id := orMissing player2
  winnerId :=
    -- A player without an opponent wins at once.
    if !truthy player1 && truthy player2 then player2
    else if truthy player1 && !truthy player2 then player1
    else none
  -- Without any player the match stays pending as well.
  status := if truthy player1 = truthy player2 then .pending else .bye

/-- The random part of each match id, by round and position. -/
abbrev BracketHex := Nat → Nat → String

/-- A round of a bracket, with two players to a match. -/
def newBracketRound (hex : BracketHex) (round : Nat) (players : List (Option String)) :
    BracketRound where
  roundNumber := round
  matchList := (List.range (players.length / 2)).map fun i =>
    newBracketMatch ⟨round, i + 1, hex round (i + 1)⟩ (players.getD (2 * i) none)
      (players.getD (2 * i + 1) none)

/-- So many rounds from `round` on, each played by the winners of the one
    before. -/
def bracketRounds (hex : BracketHex) (round : Nat) :
    Nat → List (Option String) → List BracketRound
  | 0, _ => []
  | remaining + 1, players =>
    let built := newBracketRound hex round players
    built :: bracketRounds hex (round + 1) remaining
      (built.matchList.map fun m => orMissing m.winnerId)

/-- The bracket type is accepted and not looked at. -/
def generateBracketStructure (_ : BracketType) (hex : BracketHex) (playerIds : List String) :
    Bracket where
  rounds :=
    let rounds := numRounds playerIds.length
    let byes := List.replicate (2 ^ rounds - playerIds.length) none
    bracketRounds hex 1 rounds (playerIds.map some ++ byes)

/-! ### Recording results -/

/-- A result as the caller reports it. -/
structure BracketResult where
  matchId : BracketMatchId
  winnerId : String
  deriving DecidableEq, Repr

/-- Write the winner into the first match with the id. -/
def recordInRound (result : BracketResult) : List BracketMatch → List BracketMatch
  | [] => []
  | m :: ms =>
    if m.matchId = result.matchId then
      { m with winnerId := some result.winnerId, status := .completed } :: ms
    else m :: recordInRound result ms

/-- The bracket with one result recorded. -/
def recordResult (bracket : Bracket) (result : BracketResult) : Bracket where
  rounds := bracket.rounds.map fun round =>
    { round with matchList := recordInRound result round.matchList }

/-- The bracket with all results recorded, one after the other. -/
def recordResults (bracket : Bracket) (results : List BracketResult) : Bracket :=
  results.foldl recordResult bracket

/-- The first match of the last round. -/
def finalMatch (bracket : Bracket) : Option BracketMatch :=
  bracket.rounds.getLast?.bind fun round => round.matchList.head?

/-- The final has a winner. -/
def finalDecided (bracket : Bracket) : Bool :=
  match finalMatch bracket with
  | some m => truthy m.winnerId
  | none => false

/-! ### Moving winners on -/

/-- Seat two winners in a match. With both seats taken, or none, the winner and
    the status stay what they were. -/
def seatWinners (m : BracketMatch) (winner1 winner2 : Option String) : BracketMatch :=
  let seated := { m with player1Id := orMissing winner1, player2Id := orMissing winner2 }
  if truthy seated.player1Id && !truthy seated.player2Id then
    { seated with winnerId := seated.player1Id, status := .bye }
  else if !truthy seated.player1Id && truthy seated.player2Id then
    { seated with winnerId := seated.player2Id, status := .bye }
  else seated

/-- All matches of a round have winners. -/
def roundComplete (round : BracketRound) : Bool :=
  round.matchList.all fun m => truthy m.winnerId

/-- The next round with the winners of this one in its seats. -/
def populateRound (round next : BracketRound) : BracketRound :=
  let winners := round.matchList.map BracketMatch.winnerId
  { next with
    matchList := next.matchList.mapIdx fun j m =>
      seatWinners m (winners.getD (2 * j) none) (winners.getD (2 * j + 1) none) }

/-- Each complete round fills the next one, and what it fills counts when the
    next one is looked at. -/
def advanceFrom (round : BracketRound) : List BracketRound → List BracketRound
  | [] => [round]
  | next :: rest =>
    round :: advanceFrom (if roundComplete round then populateRound round next else next) rest

/-- The bracket with the winners of each complete round moved on. -/
def advanceWinnersToNextRound (bracket : Bracket) : Bracket where
  rounds := match bracket.rounds with
    | [] => []
    | round :: rest => advanceFrom round rest

/-! ### Placements -/

/-- Placements by player, in the order in which players were first placed. -/
abbrev Placements := Table (Prod.fst : String × ℚ → String)

/-- Who lost a match, as far as it has players. -/
def loserId (m : BracketMatch) : Option String :=
  if m.player1Id = m.winnerId then m.player2Id else m.player1Id

/-- The final places its winner first and its loser second. -/
def placeFinal (placements : Placements) (m : BracketMatch) : Placements :=
  match m.winnerId with
  | some winner =>
    -- The empty text is no winner.
    if truthy m.winnerId then
      let placed := placements.save (winner, 1)
      match loserId m with
      | some loser => if truthy (loserId m) then placed.save (loser, 2) else placed
      | none => placed
    else placements
  | none => placements

/-- An earlier match places its loser, unless the loser is placed already. -/
def placeLoser (basePlacement : ℚ) (placements : Placements) (m : BracketMatch) : Placements :=
  match loserId m with
  | some loser =>
    if truthy m.winnerId && truthy (loserId m) && (placements.findOne loser).isNone then
      placements.save (loser, basePlacement)
    else placements
  | none => placements

/-- The placements the rounds give, from the last round to the first. The list
    holds the rounds in that order. -/
def placeRounds (placements : Placements) (fromLast : Nat) : List BracketRound → Placements
  | [] => placements
  | round :: earlier =>
    let place := if fromLast = 0 then placeFinal else placeLoser (2 ^ (fromLast + 1))
    placeRounds (round.matchList.foldl place placements) (fromLast + 1) earlier

/-- The places, counted from the final down to the first round. -/
def finalPlacements (bracket : Bracket) : Placements :=
  placeRounds Table.empty 0 bracket.rounds.reverse

end Esports

end SvmCourse
