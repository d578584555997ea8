import SvmCourse.Core.Knockout
import SvmCourse.Esports.Bracket

/-!
# Brackets as Sheets

Every bracket the service ever stores has the shape it was generated with: a
power of two matches in the first round, half as many in each round after it,
and the ids in their places. What changes is what stands in the matches. A
`Sheet` is that content, a cell for every round and position, and `toBracket`
writes it out as the lists the service keeps.

On sheets the operations are plain. Recording a result changes the one cell
the id names. Moving winners on gives a round the winners of the round before
if that one is complete, and since a complete round has a winner everywhere it
never makes a bye. Building a bracket writes byes down the side of the last
player when their number is odd, and leaves all later rounds empty when it is
even.

## Main definitions

* `Cell`, `Sheet`: The content of a match and of a bracket.
* `Sheet.toBracket`: The bracket with the content.
* `generatedSheet`, `Sheet.recordAll`, `Sheet.advance`: The operations.
* `Bracket.matchAt`, `Bracket.feeds`: The match at a round and position, and
  the two matches that lead to it.

## Theorems

* `generate_eq`: A generated bracket is a sheet.
* `recordResults_eq`, `advanceWinners_eq`: Recording and moving on.
* `finalDecided_eq`: Whether the final has a winner.
* `matchAt_toBracket`: Looking up a match.
* `seated_succ`: Who is in the later rounds of a generated bracket.
-/

namespace SvmCourse

namespace Esports

open Core

/-! ### Missing strings -/

@[simp] theorem truthy_none : truthy none = false := rfl

theorem truthy_some {text : String} : truthy (some text) = true ↔ text ≠ "" := by
  simp [truthy]

theorem orMissing_of_truthy {value : Option String} (h : truthy value = true) :
    orMissing value = value := if_pos h

theorem orMissing_of_not {value : Option String} (h : truthy value = false) :
    orMissing value = none := if_neg (by simp [h])

@[simp] theorem truthy_orMissing (value : Option String) :
    truthy (orMissing value) = truthy value := by
  by_cases h : truthy value = true
  · rw [orMissing_of_truthy h]
  · rw [Bool.not_eq_true] at h
    rw [orMissing_of_not h, h, truthy_none]

@[simp] theorem orMissing_orMissing (value : Option String) :
    orMissing (orMissing value) = orMissing value := by
  by_cases h : truthy value = true
  · rw [orMissing_of_truthy h, orMissing_of_truthy h]
  · rw [Bool.not_eq_true] at h
    rw [orMissing_of_not h, orMissing_of_not truthy_none]

/-! ### Sheets -/

/-- What stands in a match. -/
structure Cell where
  player1Id : Option String
  player2Id : Option String
  winnerId : Option String
  status : BracketMatchStatus
  deriving DecidableEq

/-- What stands in the matches of a bracket, by round and position from zero. -/
structure Sheet where
  rounds : Nat
  hex : BracketHex
  cell : Nat → Nat → Cell

/-- The id of the match at a place of the bracket, both counted from 0. -/
def slotId (hex : BracketHex) (r j : Nat) : BracketMatchId := ⟨r + 1, j + 1, hex (r + 1) (j + 1)⟩

theorem slotId_inj {hex : BracketHex} {r j r' j' : Nat} (h : slotId hex r j = slotId hex r' j') :
    r = r' ∧ j = j' := by
  simp only [slotId, BracketMatchId.mk.injEq] at h
  omega

/-- The match that a cell describes. -/
def Cell.toMatch (cell : Cell) (matchId : BracketMatchId) : BracketMatch where
  matchId := matchId
  player1Id := cell.player1Id
  player2Id := cell.player2Id
  winnerId := cell.winnerId
  status := cell.status

namespace Sheet

variable (sheet : Sheet)

/-- The match at a place of the sheet. -/
def matchOf (r j : Nat) : BracketMatch := (sheet.cell r j).toMatch (slotId sheet.hex r j)

/-- A round of the sheet, which has half as many matches as the one before. -/
def round (r : Nat) : BracketRound where
  roundNumber := r + 1
  matchList := (List.range (2 ^ (sheet.rounds - 1 - r))).map (sheet.matchOf r)

/-- The bracket that a sheet describes. -/
def toBracket : Bracket where
  rounds := (List.range sheet.rounds).map sheet.round

/-- Only the cells of matches are written out. -/
theorem toBracket_congr {sheet sheet' : Sheet} (hrounds : sheet.rounds = sheet'.rounds)
    (hhex : sheet.hex = sheet'.hex)
    (h : ∀ r j, IsSlot sheet.rounds r j → sheet.cell r j = sheet'.cell r j) :
    sheet.toBracket = sheet'.toBracket := by
  unfold toBracket
  rw [← hrounds]
  congr 1
  refine List.map_congr_left fun r hr => ?_
  unfold round
  rw [← hrounds]
  congr 1
  refine List.map_congr_left fun j hj => ?_
  unfold matchOf
  rw [← hhex, h r j ⟨List.mem_range.mp hr, List.mem_range.mp hj⟩]

/-- Every match of the round has a winner. -/
def complete (r : Nat) : Bool :=
  (List.range (2 ^ (sheet.rounds - 1 - r))).all fun j => truthy (sheet.cell r j).winnerId

theorem complete_iff {r : Nat} : sheet.complete r = true ↔
    ∀ j < 2 ^ (sheet.rounds - 1 - r), truthy (sheet.cell r j).winnerId = true := by
  unfold complete
  simp only [List.all_eq_true, List.mem_range]

theorem roundComplete_round (r : Nat) : roundComplete (sheet.round r) = sheet.complete r := by
  unfold roundComplete round complete
  rw [List.all_map]
  rfl

end Sheet

/-- The match at a round and position, both from zero. -/
def Bracket.matchAt (bracket : Bracket) (r j : Nat) : Option BracketMatch :=
  bracket.rounds[r]?.bind fun round => round.matchList[j]?

/-- The two matches that lead to the seats of a match of round `r + 1`. -/
def Bracket.feeds (bracket : Bracket) (r j : Nat) (first second : BracketMatch) : Prop :=
  bracket.matchAt r (2 * j) = some first ∧ bracket.matchAt r (2 * j + 1) = some second

/-- Somebody is seated. -/
def BracketMatch.hasPlayers (m : BracketMatch) : Prop :=
  truthy m.player1Id = true ∨ truthy m.player2Id = true

theorem matchAt_toBracket (sheet : Sheet) (r j : Nat) :
    sheet.toBracket.matchAt r j =
      if IsSlot sheet.rounds r j then some (sheet.matchOf r j) else none := by
  unfold Bracket.matchAt Sheet.toBracket Sheet.round
  by_cases hr : r < sheet.rounds
  · by_cases hj : j < 2 ^ (sheet.rounds - 1 - r)
    · have hslot : IsSlot sheet.rounds r j := ⟨hr, hj⟩
      simp [hr, hj, hslot]
    · have hslot : ¬IsSlot sheet.rounds r j := fun h => hj h.2
      simp [hr, hj, hslot]
  · have hslot : ¬IsSlot sheet.rounds r j := fun h => hr h.1
    simp [hr, hslot]

section Slots

variable {sheet : Sheet} {r j : Nat}

theorem matchAt_slot (h : IsSlot sheet.rounds r j) :
    sheet.toBracket.matchAt r j = some (sheet.matchOf r j) := by
  rw [matchAt_toBracket, if_pos h]

theorem slot_of_matchAt {m : BracketMatch} (h : sheet.toBracket.matchAt r j = some m) :
    IsSlot sheet.rounds r j ∧ m = sheet.matchOf r j := by
  rw [matchAt_toBracket] at h
  by_cases hslot : IsSlot sheet.rounds r j
  · rw [if_pos hslot] at h
    exact ⟨hslot, (Option.some.inj h).symm⟩
  · rw [if_neg hslot] at h
    exact nomatch h

/-- The matches before a match of a later round are matches. -/
theorem feeders_slot {k : Nat} (h : IsSlot k (r + 1) j) :
    IsSlot k r (2 * j) ∧ IsSlot k r (2 * j + 1) := by
  rcases h with ⟨hr, hj⟩
  have hhalf : 2 ^ (k - 1 - r) = 2 * 2 ^ (k - 1 - (r + 1)) := by
    have hsub : k - 1 - (r + 1) = k - 1 - 1 - r := by omega
    rw [hsub]
    exact two_pow_sub (by omega)
  exact ⟨⟨by omega, by omega⟩, ⟨by omega, by omega⟩⟩

end Slots

/-! ### Generating -/

/-- Who comes into a round at a position of a bracket that is being built. -/
def seated (ids : List String) : Nat → Nat → Option String
  | 0, i => ids[i]?
  | r + 1, i =>
    orMissing (newBracketMatch ⟨0, 0, ""⟩ (seated ids r (2 * i))
      (seated ids r (2 * i + 1))).winnerId

/-- A cell of a new bracket. -/
def generatedCell (ids : List String) (r j : Nat) : Cell :=
  let m := newBracketMatch ⟨0, 0, ""⟩ (seated ids r (2 * j)) (seated ids r (2 * j + 1))
  ⟨m.player1Id, m.player2Id, m.winnerId, m.status⟩

/-- The sheet of a new bracket. -/
def generatedSheet (hex : BracketHex) (ids : List String) : Sheet where
  rounds := numRounds ids.length
  hex := hex
  cell := generatedCell ids

theorem getD_map_range {α : Type} {f : Nat → Option α} {n i : Nat} (hi : i < n) :
    ((List.range n).map f).getD i none = f i := by
  simp [List.getD, hi]

/-- One round of the loop writes one round of the sheet. -/
theorem newBracketRound_eq (hex : BracketHex) (ids : List String) {r : Nat}
    (hr : r < numRounds ids.length) :
    newBracketRound hex (r + 1)
        ((List.range (2 ^ (numRounds ids.length - r))).map (seated ids r)) =
      (generatedSheet hex ids).round r := by
  have hhalf := two_pow_sub hr
  unfold newBracketRound Sheet.round
  simp only [List.length_map, List.length_range, hhalf, BracketRound.mk.injEq, true_and]
  have hdiv : 2 * 2 ^ (numRounds ids.length - 1 - r) / 2 = 2 ^ (numRounds ids.length - 1 - r) := by
    omega
  rw [hdiv]
  refine List.map_congr_left fun j hj => ?_
  have hj' : j < 2 ^ (numRounds ids.length - 1 - r) := List.mem_range.mp hj
  rw [getD_map_range (by omega), getD_map_range (by omega)]
  rfl

theorem bracketRounds_eq (hex : BracketHex) (ids : List String) (n r : Nat)
    (h : r + n = numRounds ids.length) :
    bracketRounds hex (r + 1) n
        ((List.range (2 ^ (numRounds ids.length - r))).map (seated ids r)) =
      (List.range' r n).map (generatedSheet hex ids).round := by
  induction n generalizing r with
  | zero => rfl
  | succ n ih =>
      have hr : r < numRounds ids.length := by omega
      have hsub : numRounds ids.length - 1 - r = numRounds ids.length - (r + 1) := by omega
      rw [bracketRounds, newBracketRound_eq hex ids hr, List.range'_succ, List.map_cons]
      -- The winners of the round are those who come into the next one.
      have hwinners : ((generatedSheet hex ids).round r).matchList.map
          (fun m => orMissing m.winnerId) =
            (List.range (2 ^ (numRounds ids.length - (r + 1)))).map (seated ids (r + 1)) := by
        unfold Sheet.round
        rw [List.map_map, ← hsub]
        rfl
      rw [hwinners, ih (r + 1) (by omega)]

/-- A generated bracket is a sheet. -/
theorem generate_eq (bracketType : BracketType) (hex : BracketHex) (ids : List String) :
    generateBracketStructure bracketType hex ids = (generatedSheet hex ids).toBracket := by
  have hle := le_two_pow_numRounds ids.length
  -- The list of players, padded to a power of two, is the first row of seats.
  have hplayers : ids.map some ++
      List.replicate (2 ^ numRounds ids.length - ids.length) none =
        (List.range (2 ^ (numRounds ids.length - 0))).map (seated ids 0) := by
    apply List.ext_getElem?
    intro i
    by_cases hi : i < ids.length
    · have hpow : i < 2 ^ numRounds ids.length := by omega
      simp [List.getElem?_append, hi, hpow, seated]
    · by_cases hpow : i < 2 ^ numRounds ids.length
      · have hpad : i - ids.length < 2 ^ numRounds ids.length - ids.length := by omega
        simp [List.getElem?_append, hi, hpow, hpad, seated]
      · have hpad : ¬i - ids.length < 2 ^ numRounds ids.length - ids.length := by omega
        simp [List.getElem?_append, hi, hpow, hpad]
  unfold generateBracketStructure Sheet.toBracket
  simp only
  rw [hplayers, bracketRounds_eq hex ids _ 0 (Nat.zero_add _), List.range_eq_range']
  rfl

section Byes

variable {matchId : BracketMatchId} {player1 player2 : Option String}

theorem bye_first (h1 : truthy player1 = true) (h2 : truthy player2 = false) :
    (newBracketMatch matchId player1 player2).winnerId = player1 := by
  simp [newBracketMatch, h1, h2]

theorem bye_second (h1 : truthy player1 = false) (h2 : truthy player2 = true) :
    (newBracketMatch matchId player1 player2).winnerId = player2 := by
  simp [newBracketMatch, h1, h2]

theorem no_bye (h : truthy player1 = truthy player2) :
    (newBracketMatch matchId player1 player2).winnerId = none := by
  cases h2 : truthy player2 <;> simp [newBracketMatch, h, h2]

end Byes

/-- In the later rounds of a generated bracket there is nobody but the last
    player, and only when the number of players is odd. -/
theorem seated_succ {ids : List String} (hnamed : ∀ id ∈ ids, id ≠ "") (r i : Nat) :
    seated ids (r + 1) i =
      if ids.length % 2 = 1 ∧ i = ids.length / 2 ^ (r + 1) then ids[ids.length - 1]? else none := by
  have htruthy : ∀ i < ids.length, truthy ids[i]? = true := by
    intro i hi
    rw [List.getElem?_eq_getElem hi, truthy_some]
    exact hnamed _ (List.getElem_mem hi)
  have hmissing : ∀ i, ids.length ≤ i → truthy ids[i]? = false := by
    intro i hi
    rw [List.getElem?_eq_none hi, truthy_none]
  induction r generalizing i with
  | zero =>
      have hfirst : ∀ i, seated ids 0 i = ids[i]? := fun _ => rfl
      rw [seated, hfirst, hfirst]
      by_cases hlast : ids.length % 2 = 1 ∧ i = ids.length / 2 ^ (0 + 1)
      · -- The last of an odd number of players meets nobody.
        have hi : 2 * i = ids.length - 1 := by omega
        have htop := htruthy (ids.length - 1) (by omega)
        rw [if_pos hlast, hi, bye_first htop (hmissing _ (by omega)), orMissing_of_truthy htop]
      · have hsame : truthy ids[2 * i]? = truthy ids[2 * i + 1]? := by
          by_cases hin : 2 * i + 1 < ids.length
          · rw [htruthy _ hin, htruthy _ (by omega)]
          · rw [hmissing _ (by omega), hmissing _ (by omega)]
        rw [if_neg hlast, no_bye hsame]
        rfl
  | succ r ih =>
      have hdiv : ids.length / 2 ^ (r + 1 + 1) = ids.length / 2 ^ (r + 1) / 2 := by
        rw [Nat.div_div_eq_div_mul, Nat.pow_succ]
      rw [seated, ih, ih, hdiv]
      by_cases hodd : ids.length % 2 = 1
      · have htop := htruthy (ids.length - 1) (by omega)
        simp only [hodd, true_and]
        by_cases hleft : 2 * i = ids.length / 2 ^ (r + 1)
        · rw [if_pos hleft, if_neg (by omega), if_pos (by omega), bye_first htop truthy_none,
            orMissing_of_truthy htop]
        · by_cases hright : 2 * i + 1 = ids.length / 2 ^ (r + 1)
          · rw [if_neg hleft, if_pos hright, if_pos (by omega), bye_second truthy_none htop,
              orMissing_of_truthy htop]
          · rw [if_neg hleft, if_neg hright, if_neg (by omega), no_bye rfl]
            rfl
      · simp only [hodd, false_and, if_false]
        rw [no_bye rfl]
        rfl

/-! ### Recording -/

namespace Sheet

variable (sheet : Sheet)

/-- Record one result in the cell it names. -/
def record (result : BracketResult) : Sheet :=
  { sheet with
    cell := fun r j =>
      if slotId sheet.hex r j = result.matchId then
        { sheet.cell r j with winnerId := some result.winnerId, status := .completed }
      else sheet.cell r j }

/-- Record all results, one after the other. -/
def recordAll (results : List BracketResult) : Sheet := results.foldl record sheet

end Sheet

/-- With different ids in a list, the first match with the id is the only one. -/
theorem recordInRound_eq_map (result : BracketResult) {l : List BracketMatch}
    (h : (l.map BracketMatch.matchId).Nodup) :
    recordInRound result l = l.map fun m =>
      if m.matchId = result.matchId then
        { m with winnerId := some result.winnerId, status := .completed }
      else m := by
  induction l with
  | nil => rfl
  | cons m l ih =>
      rw [List.map_cons, List.nodup_cons] at h
      rw [recordInRound, List.map_cons]
      by_cases hm : m.matchId = result.matchId
      · rw [if_pos hm, if_pos hm]
        congr 1
        -- Past the first match with the id there is none to be changed.
        have hid : l.map (fun m => if m.matchId = result.matchId then
            { m with winnerId := some result.winnerId, status := BracketMatchStatus.completed }
            else m) = l.map id := by
          refine List.map_congr_left fun m' hm' => if_neg fun he => h.1 ?_
          rw [hm, ← he]
          exact List.mem_map_of_mem hm'
        rw [hid, List.map_id]
      · rw [if_neg hm, if_neg hm, ih h.2]

theorem recordResult_eq (sheet : Sheet) (result : BracketResult) :
    recordResult sheet.toBracket result = (sheet.record result).toBracket := by
  unfold recordResult Sheet.toBracket
  simp only [List.map_map, Bracket.mk.injEq]
  refine List.map_congr_left fun r _ => ?_
  unfold Sheet.round
  simp only [Function.comp_apply, BracketRound.mk.injEq, true_and]
  rw [recordInRound_eq_map]
  · rw [List.map_map]
    refine List.map_congr_left fun j _ => ?_
    -- The match is recorded in the round exactly where its slot is.
    by_cases hid : slotId sheet.hex r j = result.matchId
    · simp [Sheet.matchOf, Sheet.record, Cell.toMatch, hid]
    · simp [Sheet.matchOf, Sheet.record, Cell.toMatch, hid]
  · rw [List.map_map]
    refine List.nodup_range.map fun j j' h => ?_
    exact (slotId_inj h).2

theorem recordResults_eq (sheet : Sheet) (results : List BracketResult) :
    recordResults sheet.toBracket results = (sheet.recordAll results).toBracket := by
  unfold recordResults Sheet.recordAll
  induction results generalizing sheet with
  | nil => rfl
  | cons result results ih =>
      rw [List.foldl_cons, List.foldl_cons, recordResult_eq, ih]

namespace Sheet

variable (sheet : Sheet)

@[simp] theorem recordAll_rounds (results : List BracketResult) :
    (sheet.recordAll results).rounds = sheet.rounds := by
  unfold recordAll
  induction results generalizing sheet with
  | nil => rfl
  | cons result results ih => exact ih (sheet.record result)

@[simp] theorem recordAll_hex (results : List BracketResult) :
    (sheet.recordAll results).hex = sheet.hex := by
  unfold recordAll
  induction results generalizing sheet with
  | nil => rfl
  | cons result results ih => exact ih (sheet.record result)

/-- Recording changes winners and statuses only. -/
theorem recordAll_seats (results : List BracketResult) (r j : Nat) :
    ((sheet.recordAll results).cell r j).player1Id = (sheet.cell r j).player1Id ∧
      ((sheet.recordAll results).cell r j).player2Id = (sheet.cell r j).player2Id := by
  unfold recordAll
  induction results generalizing sheet with
  | nil => exact ⟨rfl, rfl⟩
  | cons result results ih =>
      have hone : ((sheet.record result).cell r j).player1Id = (sheet.cell r j).player1Id ∧
          ((sheet.record result).cell r j).player2Id = (sheet.cell r j).player2Id := by
        unfold record
        simp only
        split <;> exact ⟨rfl, rfl⟩
      have hrest := ih (sheet.record result)
      exact ⟨hrest.1.trans hone.1, hrest.2.trans hone.2⟩

/-- A match no result names stays as it is. -/
theorem recordAll_of_forall_ne {results : List BracketResult} {r j : Nat}
    (h : ∀ result ∈ results, result.matchId ≠ slotId sheet.hex r j) :
    (sheet.recordAll results).cell r j = sheet.cell r j := by
  unfold recordAll
  induction results generalizing sheet with
  | nil => rfl
  | cons result results ih =>
      rw [List.foldl_cons, ih (sheet.record result) fun result' h' =>
        h result' (List.mem_cons_of_mem _ h')]
      unfold record
      exact if_neg fun he => h result List.mem_cons_self he.symm

end Sheet

/-! ### Moving winners on -/

namespace Sheet

variable (sheet : Sheet)

/-- The seats of a round whose round before is complete are filled with the
    winners of that one. -/
def advance : Sheet :=
  { sheet with
    cell := fun r j =>
      if 0 < r && sheet.complete (r - 1) then
        { sheet.cell r j with
          player1Id := (sheet.cell (r - 1) (2 * j)).winnerId
          player2Id := (sheet.cell (r - 1) (2 * j + 1)).winnerId }
      else sheet.cell r j }

@[simp] theorem advance_winnerId (r j : Nat) :
    (sheet.advance.cell r j).winnerId = (sheet.cell r j).winnerId := by
  unfold advance
  simp only
  split <;> rfl

theorem advance_filled {r : Nat} (h : sheet.complete r = true) (j : Nat) :
    sheet.advance.cell (r + 1) j = { sheet.cell (r + 1) j with
      player1Id := (sheet.cell r (2 * j)).winnerId
      player2Id := (sheet.cell r (2 * j + 1)).winnerId } := by
  simp [advance, h]

theorem advance_stays {r : Nat} (h : 0 < r → sheet.complete (r - 1) = false) (j : Nat) :
    sheet.advance.cell r j = sheet.cell r j := by
  unfold advance
  refine if_neg ?_
  rw [Bool.and_eq_true, decide_eq_true_eq]
  intro hfill
  rw [h hfill.1] at hfill
  exact nomatch hfill.2

theorem advance_complete (r : Nat) : sheet.advance.complete r = sheet.complete r := by
  unfold complete
  simp only [advance_winnerId]
  rfl

end Sheet

/-- Two winners take their seats, and the match is as decided as before. -/
theorem seatWinners_both {m : BracketMatch} {winner1 winner2 : Option String}
    (h1 : truthy winner1 = true) (h2 : truthy winner2 = true) :
    seatWinners m winner1 winner2 = { m with player1Id := winner1, player2Id := winner2 } := by
  unfold seatWinners
  rw [orMissing_of_truthy h1, orMissing_of_truthy h2]
  simp [h1, h2]

theorem populateRound_eq {sheet : Sheet} {r : Nat} (hr : r + 1 < sheet.rounds)
    (hcomplete : sheet.complete r = true) :
    populateRound (sheet.advance.round r) (sheet.round (r + 1)) = sheet.advance.round (r + 1) := by
  -- Each match of the next round takes two winners of this one.
  have hhalf : 2 ^ (sheet.rounds - 1 - r) = 2 * 2 ^ (sheet.rounds - 1 - (r + 1)) := by
    have hsub : sheet.rounds - 1 - (r + 1) = sheet.rounds - 1 - 1 - r := by omega
    rw [hsub]
    exact two_pow_sub (by omega)
  have hwinners := sheet.complete_iff.mp hcomplete
  unfold populateRound Sheet.round
  simp only [BracketRound.mk.injEq, true_and]
  apply List.ext_getElem?
  intro j
  by_cases hj : j < 2 ^ (sheet.rounds - 1 - (r + 1))
  · have h1 := hwinners (2 * j) (by omega)
    have h2 := hwinners (2 * j + 1) (by omega)
    have hget : ∀ i < 2 ^ (sheet.rounds - 1 - r),
        (((List.range (2 ^ (sheet.rounds - 1 - r))).map (sheet.advance.matchOf r)).map
          BracketMatch.winnerId).getD i none = (sheet.cell r i).winnerId := by
      intro i hi
      rw [List.map_map, getD_map_range hi]
      exact sheet.advance_winnerId r i
    have hrounds : sheet.advance.rounds = sheet.rounds := rfl
    simp only [hrounds, List.getElem?_mapIdx, List.getElem?_map, List.getElem?_range hj,
      Option.map_some, Option.some.injEq]
    rw [hget _ (by omega), hget _ (by omega), seatWinners_both h1 h2]
    simp [Sheet.matchOf, Sheet.advance, Cell.toMatch, hcomplete]
  · have hrounds : sheet.advance.rounds = sheet.rounds := rfl
    have hnone : (List.range (2 ^ (sheet.rounds - 1 - (r + 1))))[j]? = none :=
      List.getElem?_eq_none (by rw [List.length_range]; omega)
    simp [hrounds, List.getElem?_mapIdx, hnone]

theorem advanceFrom_eq (sheet : Sheet) (n r : Nat) (h : r + n + 1 = sheet.rounds) :
    advanceFrom (sheet.advance.round r) ((List.range' (r + 1) n).map sheet.round) =
      (List.range' r (n + 1)).map sheet.advance.round := by
  induction n generalizing r with
  | zero => rfl
  | succ n ih =>
      have hnext : (if roundComplete (sheet.advance.round r) then
          populateRound (sheet.advance.round r) (sheet.round (r + 1)) else sheet.round (r + 1)) =
            sheet.advance.round (r + 1) := by
        rw [Sheet.roundComplete_round, Sheet.advance_complete]
        -- A round that is complete fills the next one, any other leaves it.
        by_cases hcomplete : sheet.complete r = true
        · rw [if_pos hcomplete, populateRound_eq (by omega) hcomplete]
        · rw [if_neg hcomplete]
          simp [Sheet.round, Sheet.advance, Sheet.matchOf, hcomplete]
      rw [List.range'_succ, List.map_cons, advanceFrom, hnext, ih (r + 1) (by omega),
        List.range'_succ (s := r), List.map_cons]

theorem advanceWinners_eq (sheet : Sheet) :
    advanceWinnersToNextRound sheet.toBracket = sheet.advance.toBracket := by
  unfold advanceWinnersToNextRound Sheet.toBracket
  have hrounds : sheet.advance.rounds = sheet.rounds := rfl
  rw [hrounds, List.range_eq_range']
  cases hk : sheet.rounds with
  | zero => rfl
  | succ n =>
      -- The first round is never written.
      have hfirst : sheet.round 0 = sheet.advance.round 0 := rfl
      rw [List.range'_succ, List.map_cons, hfirst]
      simp only [Bracket.mk.injEq]
      rw [advanceFrom_eq sheet n 0 (by omega)]
      rfl

/-! ### The final -/

theorem finalMatch_eq {sheet : Sheet} (h : 0 < sheet.rounds) :
    finalMatch sheet.toBracket = some (sheet.matchOf (sheet.rounds - 1) 0) := by
  have hne : ¬sheet.rounds = 0 := by omega
  unfold finalMatch Sheet.toBracket
  rw [List.getLast?_map, List.getLast?_range, if_neg hne]
  simp [Sheet.round]

theorem finalDecided_eq (sheet : Sheet) : finalDecided sheet.toBracket =
    (decide (0 < sheet.rounds) && truthy (sheet.cell (sheet.rounds - 1) 0).winnerId) := by
  unfold finalDecided
  by_cases h : 0 < sheet.rounds
  · rw [finalMatch_eq h, decide_eq_true h]
    rfl
  · have hnone : finalMatch sheet.toBracket = none := by
      have hzero : sheet.rounds = 0 := by omega
      simp [finalMatch, Sheet.toBracket, hzero]
    rw [hnone, decide_eq_false h]
    rfl

end Esports

end SvmCourse
