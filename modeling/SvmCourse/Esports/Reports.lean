import Mathlib.Data.List.Induction
import SvmCourse.Esports.Sheet
import SvmCourse.Esports.Starting

/-!
# Arbitrary Reports

What advancing a round does to the bracket when the results are anything at
all. A bracket is consistent when every winner plays in the match it won, and
whoever is seated in a later round won the match that leads to the seat. A
generated bracket is consistent. The service takes the winner of a result as
it comes, and seats the winners of a round only if the round is complete and
the final is open, so a report can break the consistency in three ways: by
naming an outsider, by changing a winner who has been sent on, and by sending
new players to a match that is already decided.

`ResultsFit` says that the results of a call do none of this, and it is exact:
a call that goes through keeps the bracket consistent if and only if its
results fit.

## Main definitions

* `Consistent`: Winners play in their matches, and seats go to winners.
* `winnerAfter`: The winner of a match once results are in.
* `Refills`: The call fills the seats of a round.
* `ResultsFit`: The results name no outsider and overturn nothing sent on.
* `FittingRun`: The results of every call fit.

## Theorems

* `generated_consistent`: A generated bracket is consistent.
* `settled_consistent_iff`: What a call makes of a consistent bracket.
* `fittingRun_consistent`: Runs of fitting calls keep brackets consistent.
-/

namespace SvmCourse

namespace Esports

open Core Core.Prog

/-! ### Consistent brackets -/

/-- Every winner is one of the two players of the match, and the players of a
    later match are the current winners of the two matches before it. -/
structure Consistent (bracket : Bracket) : Prop where
  winner : ∀ r j m, bracket.matchAt r j = some m → truthy m.winnerId = true →
    m.winnerId = m.player1Id ∨ m.winnerId = m.player2Id
  seats : ∀ r j m first second, bracket.matchAt (r + 1) j = some m →
    bracket.feeds r j first second → m.hasPlayers →
      m.player1Id = orMissing first.winnerId ∧ m.player2Id = orMissing second.winnerId

/-! ### What a call makes of the results -/

/-- The last winner the results name for the match. -/
def reported (results : List BracketResult) (m : BracketMatch) : Option String :=
  (results.reverse.find? fun result => result.matchId = m.matchId).map BracketResult.winnerId

/-- The winner of the match once the results are in. -/
def winnerAfter (results : List BracketResult) (m : BracketMatch) : Option String :=
  match reported results m with
  | some winner => some winner
  | none => m.winnerId

/-- The results change the winner of the match. -/
def Overturns (results : List BracketResult) (m : BracketMatch) : Prop :=
  orMissing (winnerAfter results m) ≠ orMissing m.winnerId

/-- The results leave the final open and complete the round before round `r`,
    so the call fills the seats of round `r`. -/
def Refills (bracket : Bracket) (results : List BracketResult) : Nat → Prop
  | 0 => False
  | r + 1 =>
    (∀ m, finalMatch bracket = some m → truthy (winnerAfter results m) = false) ∧
      ∀ j m, bracket.matchAt r j = some m → truthy (winnerAfter results m) = true

/-- The results name only players who are seated and overturn no match whose
    winner is seated in the next round. Where the call fills the seats itself,
    the match has no winner but one of the two now sent on. -/
structure ResultsFit (bracket : Bracket) (results : List BracketResult) : Prop where
  named : ∀ r j m w, bracket.matchAt r j = some m → ¬Refills bracket results r →
    reported results m = some w → w ≠ "" → some w = m.player1Id ∨ some w = m.player2Id
  kept : ∀ r j m first second, bracket.matchAt (r + 1) j = some m →
    bracket.feeds r j first second → ¬Refills bracket results (r + 1) → m.hasPlayers →
      ¬Overturns results first ∧ ¬Overturns results second
  filled : ∀ r j m first second, bracket.matchAt (r + 1) j = some m →
    bracket.feeds r j first second → Refills bracket results (r + 1) →
      truthy (winnerAfter results m) = true →
        winnerAfter results m = winnerAfter results first ∨
          winnerAfter results m = winnerAfter results second

/-- The bracket a call leaves when it goes through. -/
def settledBracket (bracket : Bracket) (results : List BracketResult) : Bracket :=
  let recorded := recordResults bracket results
  if finalDecided recorded then recorded else advanceWinnersToNextRound recorded

/-! ### Sheets -/

theorem reported_concat (results : List BracketResult) (result : BracketResult) (m : BracketMatch) :
    reported (results ++ [result]) m =
      if result.matchId = m.matchId then some result.winnerId else reported results m := by
  unfold reported
  rw [List.reverse_append, List.reverse_singleton, List.singleton_append, List.find?_cons]
  by_cases h : result.matchId = m.matchId
  · simp [h]
  · simp [h]

/-- Recording leaves every match with the winner it has after the results. -/
theorem recordAll_winnerId (sheet : Sheet) (results : List BracketResult) (r j : Nat) :
    ((sheet.recordAll results).cell r j).winnerId = winnerAfter results (sheet.matchOf r j) := by
  induction results using List.reverseRecOn with
  | nil => rfl
  | append_singleton results result ih =>
      have hlast : sheet.recordAll (results ++ [result]) =
          (sheet.recordAll results).record result := by
        unfold Sheet.recordAll
        rw [List.foldl_append]
        rfl
      have hid : (sheet.matchOf r j).matchId = slotId sheet.hex r j := rfl
      rw [hlast, winnerAfter, reported_concat, hid]
      unfold Sheet.record
      simp only [Sheet.recordAll_hex]
      -- The last result that names the match decides.
      by_cases h : slotId sheet.hex r j = result.matchId
      · rw [if_pos h, if_pos h.symm]
      · rw [if_neg h, if_neg (fun he => h he.symm), ih]
        rfl

section Sheets

variable {sheet : Sheet} {results : List BracketResult} {r j : Nat}

/-- Consistency, read off the cells. -/
theorem consistent_iff : Consistent sheet.toBracket ↔
    (∀ r j, IsSlot sheet.rounds r j → truthy (sheet.cell r j).winnerId = true →
      (sheet.cell r j).winnerId = (sheet.cell r j).player1Id ∨
        (sheet.cell r j).winnerId = (sheet.cell r j).player2Id) ∧
    ∀ r j, IsSlot sheet.rounds (r + 1) j →
      truthy (sheet.cell (r + 1) j).player1Id = true ∨
        truthy (sheet.cell (r + 1) j).player2Id = true →
      (sheet.cell (r + 1) j).player1Id = orMissing (sheet.cell r (2 * j)).winnerId ∧
        (sheet.cell (r + 1) j).player2Id = orMissing (sheet.cell r (2 * j + 1)).winnerId := by
  -- The matches of a bracket are the cells at its slots.
  constructor
  · intro h
    refine ⟨fun r j hslot => h.winner r j _ (matchAt_slot hslot), fun r j hslot => ?_⟩
    have hfeeders := feeders_slot hslot
    exact h.seats r j _ _ _ (matchAt_slot hslot)
      ⟨matchAt_slot hfeeders.1, matchAt_slot hfeeders.2⟩
  · intro h
    refine ⟨fun r j m hm => ?_, fun r j m first second hm hfeeds => ?_⟩
    · rcases slot_of_matchAt hm with ⟨hslot, rfl⟩
      exact h.1 r j hslot
    · rcases slot_of_matchAt hm with ⟨hslot, rfl⟩
      rcases slot_of_matchAt hfeeds.1 with ⟨-, rfl⟩
      rcases slot_of_matchAt hfeeds.2 with ⟨-, rfl⟩
      exact h.2 r j hslot

/-- A generated bracket is consistent: its byes go to the only player there is,
    and are passed on as they are. -/
theorem generated_consistent (bracketType : BracketType) (hex : BracketHex) (ids : List String) :
    Consistent (generateBracketStructure bracketType hex ids) := by
  have hbye : ∀ (p1 p2 : Option String) matchId,
      truthy (newBracketMatch matchId p1 p2).winnerId = true →
        (newBracketMatch matchId p1 p2).winnerId = orMissing p1 ∨
          (newBracketMatch matchId p1 p2).winnerId = orMissing p2 := by
    intro p1 p2 matchId
    cases h1 : truthy p1 <;> cases h2 : truthy p2 <;>
      simp [newBracketMatch, orMissing, h1, h2]
  rw [generate_eq, consistent_iff]
  refine ⟨fun r j _ hwinner => hbye _ _ ⟨0, 0, ""⟩ hwinner, fun r j _ _ => ?_⟩
  exact ⟨orMissing_orMissing _, orMissing_orMissing _⟩

/-- A round that is filled comes after a round in which everybody has won. -/
theorem refills_iff (hslot : IsSlot sheet.rounds r j) :
    Refills sheet.toBracket results r ↔
      finalDecided (sheet.recordAll results).toBracket = false ∧ 0 < r ∧
        (sheet.recordAll results).complete (r - 1) = true := by
  have hpos : 0 < sheet.rounds := by
    have := hslot.1
    omega
  have hfinal := finalMatch_eq hpos
  -- The final is open exactly if no result names its winner.
  have hopen : finalDecided (sheet.recordAll results).toBracket = false ↔
      ∀ m, finalMatch sheet.toBracket = some m → truthy (winnerAfter results m) = false := by
    rw [finalDecided_eq, hfinal, Sheet.recordAll_rounds, recordAll_winnerId]
    simp [hpos]
  cases r with
  | zero => simp [Refills]
  | succ r =>
      -- A later round is filled when every match of the one before it has a winner.
      rw [Refills, hopen, Sheet.complete_iff]
      simp only [Nat.succ_pos, true_and, Nat.add_sub_cancel, recordAll_winnerId,
        Sheet.recordAll_rounds]
      refine and_congr_right fun _ => ⟨fun h j hj => ?_, fun h j m hm => ?_⟩
      · exact h j _ (matchAt_slot ⟨by have := hslot.1; omega, hj⟩)
      · rcases slot_of_matchAt hm with ⟨hj, rfl⟩
        exact h j hj.2

/-- The content of the bracket a call leaves. -/
def settledSheet (sheet : Sheet) (results : List BracketResult) : Sheet :=
  let recorded := sheet.recordAll results
  if finalDecided recorded.toBracket then recorded else recorded.advance

theorem settledBracket_eq (sheet : Sheet) (results : List BracketResult) :
    settledBracket sheet.toBracket results = (settledSheet sheet results).toBracket := by
  unfold settledBracket settledSheet
  simp only [recordResults_eq, advanceWinners_eq]
  split <;> rfl

theorem settledSheet_rounds : (settledSheet sheet results).rounds = sheet.rounds := by
  unfold settledSheet
  simp only
  split
  · exact sheet.recordAll_rounds results
  · exact sheet.recordAll_rounds results

theorem settledSheet_winnerId (r j : Nat) :
    ((settledSheet sheet results).cell r j).winnerId = winnerAfter results (sheet.matchOf r j) := by
  unfold settledSheet
  simp only
  split
  · exact recordAll_winnerId sheet results r j
  · rw [Sheet.advance_winnerId]
    exact recordAll_winnerId sheet results r j

/-- Nobody changes seats in a round that is not filled. -/
theorem settledSheet_seats (hslot : IsSlot sheet.rounds r j)
    (h : ¬Refills sheet.toBracket results r) :
    ((settledSheet sheet results).cell r j).player1Id = (sheet.cell r j).player1Id ∧
      ((settledSheet sheet results).cell r j).player2Id = (sheet.cell r j).player2Id := by
  have hseats := sheet.recordAll_seats results r j
  rw [refills_iff hslot] at h
  unfold settledSheet
  simp only
  -- A round is filled when the one before it has been completed by these results.
  split
  · exact hseats
  · next hopen =>
      rw [Bool.not_eq_true] at hopen
      rw [Sheet.advance_stays _ fun hr => ?_]
      · exact hseats
      · rw [Bool.eq_false_iff]
        exact fun hcomplete => h ⟨hopen, hr, hcomplete⟩

/-- The winners of a round take the seats of a round that is filled. -/
theorem settledSheet_filled (hslot : IsSlot sheet.rounds (r + 1) j)
    (h : Refills sheet.toBracket results (r + 1)) :
    ((settledSheet sheet results).cell (r + 1) j).player1Id =
        winnerAfter results (sheet.matchOf r (2 * j)) ∧
      ((settledSheet sheet results).cell (r + 1) j).player2Id =
        winnerAfter results (sheet.matchOf r (2 * j + 1)) := by
  rcases (refills_iff hslot).mp h with ⟨hopen, -, hcomplete⟩
  rw [Nat.add_sub_cancel] at hcomplete
  unfold settledSheet
  simp only [hopen, Bool.false_eq_true, if_false]
  rw [Sheet.advance_filled _ hcomplete]
  exact ⟨recordAll_winnerId sheet results r (2 * j), recordAll_winnerId sheet results r (2 * j + 1)⟩

/-- Results that leave a consistent bracket fit. -/
theorem resultsFit_of_settled (hs : Consistent sheet.toBracket)
    (h : Consistent (settledBracket sheet.toBracket results)) :
    ResultsFit sheet.toBracket results := by
  have hold := consistent_iff.mp hs
  rw [settledBracket_eq, consistent_iff, settledSheet_rounds] at h
  simp only [settledSheet_winnerId] at h
  refine ⟨?_, ?_, ?_⟩
  -- A winner that is named sits in the match, if its round is not filled again.
  · intro r j m w hm hstay hreported hw
    rcases slot_of_matchAt hm with ⟨hslot, rfl⟩
    have hafter : winnerAfter results (sheet.matchOf r j) = some w := by
      unfold winnerAfter
      rw [hreported]
    have hseats := settledSheet_seats hslot hstay
    have hwinner := h.1 r j hslot (by rw [hafter, truthy_some]; exact hw)
    rw [hafter, hseats.1, hseats.2] at hwinner
    exact hwinner
  -- No winner of the round before it is overturned.
  · intro r j m first second hm hfeeds hstay hplayers
    rcases slot_of_matchAt hm with ⟨hslot, rfl⟩
    rcases slot_of_matchAt hfeeds.1 with ⟨-, rfl⟩
    rcases slot_of_matchAt hfeeds.2 with ⟨-, rfl⟩
    have hseats := settledSheet_seats hslot hstay
    have hnew := h.2 r j hslot (by rw [hseats.1, hseats.2]; exact hplayers)
    rw [hseats.1, hseats.2] at hnew
    have hbefore := hold.2 r j hslot hplayers
    unfold Overturns
    rw [not_not, not_not]
    exact ⟨hnew.1.symm.trans hbefore.1, hnew.2.symm.trans hbefore.2⟩
  -- In a round that is filled again the winner is one of those who move in.
  · intro r j m first second hm hfeeds hfill hwinner
    rcases slot_of_matchAt hm with ⟨hslot, rfl⟩
    rcases slot_of_matchAt hfeeds.1 with ⟨-, rfl⟩
    rcases slot_of_matchAt hfeeds.2 with ⟨-, rfl⟩
    have hseats := settledSheet_filled hslot hfill
    have hnew := h.1 (r + 1) j hslot hwinner
    rwa [hseats.1, hseats.2] at hnew

/-- Results that fit leave a consistent bracket. -/
theorem settled_of_resultsFit (hs : Consistent sheet.toBracket)
    (h : ResultsFit sheet.toBracket results) :
    Consistent (settledBracket sheet.toBracket results) := by
  have hold := consistent_iff.mp hs
  rw [settledBracket_eq, consistent_iff, settledSheet_rounds]
  simp only [settledSheet_winnerId]
  refine ⟨?_, ?_⟩
  · intro r j hslot hwinner
    by_cases hfill : Refills sheet.toBracket results r
    · cases r with
      | zero => exact hfill.elim
      | succ r =>
          have hseats := settledSheet_filled hslot hfill
          have hfeeders := feeders_slot hslot
          rw [hseats.1, hseats.2]
          exact h.filled r j _ _ _ (matchAt_slot hslot)
            ⟨matchAt_slot hfeeders.1, matchAt_slot hfeeders.2⟩ hfill hwinner
    · have hseats := settledSheet_seats hslot hfill
      rw [hseats.1, hseats.2]
      cases hreported : reported results (sheet.matchOf r j) with
      | some w =>
          have hafter : winnerAfter results (sheet.matchOf r j) = some w := by
            unfold winnerAfter
            rw [hreported]
          rw [hafter] at hwinner ⊢
          exact h.named r j _ w (matchAt_slot hslot) hfill hreported (truthy_some.mp hwinner)
      | none =>
          -- No result names the match, so its winner is the one it had.
          have hafter : winnerAfter results (sheet.matchOf r j) = (sheet.cell r j).winnerId := by
            unfold winnerAfter
            rw [hreported]
            rfl
          rw [hafter] at hwinner ⊢
          exact hold.1 r j hslot hwinner
  · intro r j hslot hplayers
    have hfeeders := feeders_slot hslot
    by_cases hfill : Refills sheet.toBracket results (r + 1)
    · have hseats := settledSheet_filled hslot hfill
      have hboth := hfill.2
      rw [hseats.1, hseats.2, orMissing_of_truthy (hboth _ _ (matchAt_slot hfeeders.1)),
        orMissing_of_truthy (hboth _ _ (matchAt_slot hfeeders.2))]
      exact ⟨rfl, rfl⟩
    · have hseats := settledSheet_seats hslot hfill
      rw [hseats.1, hseats.2] at hplayers ⊢
      have hkept := h.kept r j _ _ _ (matchAt_slot hslot)
        ⟨matchAt_slot hfeeders.1, matchAt_slot hfeeders.2⟩ hfill hplayers
      have hbefore := hold.2 r j hslot hplayers
      unfold Overturns at hkept
      rw [not_not, not_not] at hkept
      exact ⟨hbefore.1.trans hkept.1.symm, hbefore.2.trans hkept.2.symm⟩

/-- What a call makes of a consistent bracket is consistent exactly when the
    results fit. -/
theorem settled_consistent_iff (hs : Consistent sheet.toBracket) :
    Consistent (settledBracket sheet.toBracket results) ↔
      ResultsFit sheet.toBracket results :=
  ⟨resultsFit_of_settled hs, settled_of_resultsFit hs⟩

end Sheets

/-! ### Runs of reports -/

/-- A call leaves the tournaments alone, or it went through and the bracket is
    the settled one. -/
theorem advanceRound_ensures {C : Prop} (request : AdvanceRoundRequest) {s : Db} {x : Tournament}
    {bracket : Bracket} (hfind : s.tournaments.findOne request.tournamentId = some x)
    (hbracket : x.bracket = some bracket) :
    (advanceRound request).Ensures C s fun r t => match r with
      | .error _ => t.tournaments = s.tournaments
      | .ok y => x.status = .IN_PROGRESS ∧ t.tournaments = s.tournaments.save y ∧
          y.tournamentId = x.tournamentId ∧
          y.bracket = some (settledBracket bracket request.results) := by
  unfold advanceRound
  refine ensures_bind (ensures_mono (getTournamentById_ensures _ s) fun r t ht => ?_)
  rcases ht with ⟨rfl, hr⟩
  cases r with
  | error e => exact rfl
  | ok loaded =>
  obtain rfl : x = loaded.toTournament := Option.some.inj (hfind.symm.trans hr.1)
  refine ensures_bind (ensures_require (fun hplaying => ?_) fun _ => rfl)
  rw [hbracket]
  have hsettled : ∀ finished, finalDecided (recordResults bracket request.results) = finished →
      settledBracket bracket request.results =
        if finished then recordResults bracket request.results
        else advanceWinnersToNextRound (recordResults bracket request.results) := by
    intro finished h
    rw [settledBracket, h]
  change (settleRound _ (recordResults bracket request.results) request.now).Ensures C t _
  unfold settleRound
  -- Completing the tournament writes no tournament, so both branches save the one
  -- row.
  cases hfinished : finalDecided (recordResults bracket request.results) with
  | true =>
      refine ensures_bind (ensures_mono (ensures_of_frames (completeTournament_frames _) t)
        fun r u hu => ?_)
      have hsame : u.tournaments = t.tournaments := congrArg Prod.fst hu
      cases r with
      | error e => exact hsame
      | ok _ =>
          refine ensures_bind (ensures_perform ?_ fun _ => hsame)
          refine ⟨of_decide_eq_true hplaying, ?_, rfl, ?_⟩
          · rw [← hsame]
          · rw [hsettled true hfinished]
            rfl
  | false =>
      refine ensures_bind (ensures_perform ?_ fun _ => rfl)
      refine ⟨of_decide_eq_true hplaying, rfl, rfl, ?_⟩
      rw [hsettled false hfinished]
      rfl

/-- Results reported for one tournament, each call with its refusals. -/
abbrev Reports := List ((List BracketResult × Int) × (Nat → Bool))

/-- The calls that report the results for the tournament. -/
def Reports.run (reports : Reports) (tournamentId : String) : Run :=
  reports.map fun report => (.advanceRound
    { tournamentId := tournamentId, results := report.1.1, now := report.1.2 }, report.2)

/-- The stored bracket of the tournament, while it is in progress. -/
def Db.openBracket (db : Db) (tournamentId : String) : Option Bracket :=
  (db.tournaments.findOne tournamentId).bind fun x =>
    if x.status = .IN_PROGRESS then x.bracket else none

/-- The results of every call fit the bracket stored when the call is made. -/
def FittingRun (tournamentId : String) : Db → Reports → Prop
  | _, [] => True
  | s, report :: rest =>
    (∀ bracket, s.openBracket tournamentId = some bracket → ResultsFit bracket report.1.1) ∧
      FittingRun tournamentId (s.after (Reports.run [report] tournamentId)) rest

/-- The stored bracket of the tournament is a consistent sheet. -/
def Db.ConsistentAt (db : Db) (tournamentId : String) : Prop :=
  ∃ x, ∃ sheet : Sheet, db.tournaments.findOne tournamentId = some x ∧
    x.bracket = some sheet.toBracket ∧ Consistent sheet.toBracket

/-- A call whose results fit keeps the stored bracket consistent, also when it
    is refused or throws. -/
theorem report_consistentAt {tournamentId : String} {s : Db} {report}
    (hs : s.ConsistentAt tournamentId)
    (hfit : ∀ bracket, s.openBracket tournamentId = some bracket →
      ResultsFit bracket report.1.1) :
    (s.after (Reports.run [report] tournamentId)).ConsistentAt tournamentId := by
  rcases hs with ⟨x, sheet, hfind, hbracket, hcons⟩
  have hstep := ensures_run (discard_ensures (I := fun t => t.ConsistentAt tournamentId)
    (ensures_mono (advanceRound_ensures (C := True)
      { tournamentId := tournamentId, results := report.1.1, now := report.1.2 }
        hfind hbracket) fun r t ht => ?_)) report.2 (Or.inr trivial)
  · exact hstep
  · cases r with
    | error e =>
        -- A call that fails saves no tournament.
        refine ⟨x, sheet, ?_, hbracket, hcons⟩
        rw [show t.tournaments = s.tournaments from ht]
        exact hfind
    | ok y =>
        -- One that succeeds saves the settled bracket, which is consistent if the
        -- results fit.
        rcases ht with ⟨hplaying, htournaments, hkey, hsettled⟩
        have hopen : s.openBracket tournamentId = some sheet.toBracket := by
          unfold Db.openBracket
          rw [hfind, Option.bind_some, if_pos hplaying, hbracket]
        have hnew := (settled_consistent_iff hcons).mpr (hfit _ hopen)
        rw [settledBracket_eq] at hsettled hnew
        refine ⟨y, _, ?_, hsettled, hnew⟩
        rw [htournaments, ← show y.tournamentId = tournamentId from
          hkey.trans (Table.key_of_findOne hfind)]
        exact Table.findOne_save_self s.tournaments y

theorem fittingRun_consistentAt {tournamentId : String} {s : Db} {reports : Reports}
    (hs : s.ConsistentAt tournamentId) (hfit : FittingRun tournamentId s reports) :
    (s.after (reports.run tournamentId)).ConsistentAt tournamentId := by
  induction reports generalizing s with
  | nil => exact hs
  | cons report rest ih =>
      have hone := report_consistentAt hs hfit.1
      have hsplit : Reports.run (report :: rest) tournamentId =
          Reports.run [report] tournamentId ++ Reports.run rest tournamentId := rfl
      rw [hsplit, Db.after_append]
      exact ih hone hfit.2

/-- In every run of reports whose results fit, from any tournament with a
    generated bracket, whatever is refused, the stored bracket is consistent.
    And fitting is all there is to it: a further call that goes through leaves
    a consistent bracket exactly when its results fit. -/
theorem fittingRun_consistent (s : Db) (x : Tournament) (hex : BracketHex) (ids : List String)
    (hfind : s.tournaments.findOne x.tournamentId = some x)
    (hbracket : x.bracket = some (generateBracketStructure x.bracketType hex ids))
    (reports : Reports) (hfit : FittingRun x.tournamentId s reports) :
    ∃ y bracket,
      (s.after (reports.run x.tournamentId)).tournaments.findOne x.tournamentId = some y ∧
      y.bracket = some bracket ∧ Consistent bracket ∧
      ∀ results now z t, (advanceRound
          { tournamentId := x.tournamentId, results := results, now := now }).eval
            (s.after (reports.run x.tournamentId)) = (.ok z, t) →
        ∃ after, t.tournaments.findOne x.tournamentId = some z ∧ z.bracket = some after ∧
          (Consistent after ↔ ResultsFit bracket results) := by
  have hstart : s.ConsistentAt x.tournamentId := by
    have hcons := generated_consistent x.bracketType hex ids
    rw [generate_eq] at hbracket hcons
    exact ⟨x, _, hfind, hbracket, hcons⟩
  -- The stored bracket stays a sheet, on which consistency is read off the cells.
  rcases fittingRun_consistentAt hstart hfit with ⟨y, sheet, hy, hsheet, hcons⟩
  refine ⟨y, _, hy, hsheet, hcons, fun results now z t heval => ?_⟩
  have hstep := (ensures_false_iff ..).mp (advanceRound_ensures (C := False)
    { tournamentId := x.tournamentId, results := results, now := now } hy hsheet)
  rw [heval] at hstep
  rcases hstep with ⟨-, htournaments, hkey, hsettled⟩
  refine ⟨_, ?_, hsettled, settled_consistent_iff hcons⟩
  rw [htournaments, ← show z.tournamentId = x.tournamentId from
    hkey.trans (Table.key_of_findOne hy)]
  exact Table.findOne_save_self _ z

/-- An outsider is reported as the winner of the final, and the tournament is
    completed with a winner who does not play in it. -/
theorem not_consistent_outsider :
    ∃ y bracket,
      ((startedTournament ["a", "b"]).after (Reports.run
        [(([⟨⟨1, 1, "m"⟩, "x"⟩], 0), calm)] "t")).tournaments.findOne "t" = some y ∧
      y.status = .COMPLETED ∧ y.bracket = some bracket ∧ ¬Consistent bracket := by
  have hrow : (((startedTournament ["a", "b"]).after (Reports.run
      [(([⟨⟨1, 1, "m"⟩, "x"⟩], 0), calm)] "t")).tournaments.findOne "t").map
        (fun y => (y.status, y.bracket)) = some (.COMPLETED,
          some ⟨[⟨1, [⟨⟨1, 1, "m"⟩, some "a", some "b", some "x", .completed⟩]⟩]⟩) := by
    decide +kernel
  rcases Option.map_eq_some_iff.mp hrow with ⟨y, hy, hpair⟩
  refine ⟨y, _, hy, congrArg Prod.fst hpair, congrArg Prod.snd hpair, fun hcons => ?_⟩
  have hwinner := hcons.winner 0 0 ⟨⟨1, 1, "m"⟩, some "a", some "b", some "x", .completed⟩ rfl
    (by decide)
  revert hwinner
  decide

/-- The bracket of four players. -/
def fourBracket (first second final : BracketMatch) : Bracket :=
  ⟨[⟨1, [first, second]⟩, ⟨2, [final]⟩]⟩

instance (results : List BracketResult) (m : BracketMatch) : Decidable (Overturns results m) :=
  inferInstanceAs (Decidable (_ ≠ _))

instance (m : BracketMatch) : Decidable m.hasPlayers := inferInstanceAs (Decidable (_ ∨ _))

section

variable {first second final : BracketMatch} {results : List BracketResult}

theorem matchAt_fourBracket {r j : Nat} {m : BracketMatch}
    (h : (fourBracket first second final).matchAt r j = some m) :
    r = 0 ∧ j = 0 ∧ first = m ∨ r = 0 ∧ j = 1 ∧ second = m ∨ r = 1 ∧ j = 0 ∧ final = m := by
  match r, j with
  | 0, 0 => exact .inl ⟨rfl, rfl, Option.some.inj h⟩
  | 0, 1 => exact .inr (.inl ⟨rfl, rfl, Option.some.inj h⟩)
  | 1, 0 => exact .inr (.inr ⟨rfl, rfl, Option.some.inj h⟩)
  | 0, j + 2 => exact nomatch h
  | 1, j + 1 => exact nomatch h
  | r + 2, j => exact nomatch h

/-- Results fit the bracket of four players if they name no outsider and leave a
    final that is seated with the winners it was seated with. -/
theorem resultsFit_fourBracket
    (hnamed : ∀ m ∈ [first, second, final], ∀ w ∈ reported results m, w ≠ "" →
      some w = m.player1Id ∨ some w = m.player2Id)
    (hkept : final.hasPlayers → ¬Overturns results first ∧ ¬Overturns results second) :
    ResultsFit (fourBracket first second final) results := by
  refine ⟨fun r j m w hm _ => hnamed m ?_ w, fun r j m one two hm hfeeds _ => ?_,
    fun r j m one two hm hfeeds hrefills hwon => ?_⟩
  · rcases matchAt_fourBracket hm with ⟨-, -, rfl⟩ | ⟨-, -, rfl⟩ | ⟨-, -, rfl⟩ <;> simp
  · rcases matchAt_fourBracket hm with ⟨hr, -, -⟩ | ⟨hr, -, -⟩ | ⟨hr, rfl, rfl⟩
    · cases hr
    · cases hr
    · cases hr
      cases hfeeds.1
      cases hfeeds.2
      exact hkept
  · rcases matchAt_fourBracket hm with ⟨hr, -, -⟩ | ⟨hr, -, -⟩ | ⟨hr, rfl, rfl⟩
    · cases hr
    · cases hr
    · -- The final is open when its seats are filled.
      exact nomatch hwon.symm.trans (hrefills.1 final rfl)

end

/-- The wrong winner of a match is reported and corrected, and the final is played. -/
def correctedReports : Reports :=
  [(([⟨⟨1, 1, "m"⟩, "b"⟩], 0), calm),
    (([⟨⟨1, 1, "m"⟩, "a"⟩, ⟨⟨1, 2, "m"⟩, "c"⟩], 0), calm),
    (([⟨⟨2, 1, "m"⟩, "c"⟩], 0), calm)]

theorem correctedReports_fitting :
    FittingRun "t" (startedTournament ["a", "b", "c", "d"]) correctedReports := by
  -- The bracket before each of the three calls.
  have hfirst : (startedTournament ["a", "b", "c", "d"]).openBracket "t" =
      some (fourBracket ⟨⟨1, 1, "m"⟩, some "a", some "b", none, .pending⟩
        ⟨⟨1, 2, "m"⟩, some "c", some "d", none, .pending⟩
        ⟨⟨2, 1, "m"⟩, none, none, none, .pending⟩) := by
    decide +kernel
  have hsecond : ((startedTournament ["a", "b", "c", "d"]).after
      (Reports.run [correctedReports[0]] "t")).openBracket "t" =
      some (fourBracket ⟨⟨1, 1, "m"⟩, some "a", some "b", some "b", .completed⟩
        ⟨⟨1, 2, "m"⟩, some "c", some "d", none, .pending⟩
        ⟨⟨2, 1, "m"⟩, none, none, none, .pending⟩) := by
    decide +kernel
  have hthird : (((startedTournament ["a", "b", "c", "d"]).after
      (Reports.run [correctedReports[0]] "t")).after
        (Reports.run [correctedReports[1]] "t")).openBracket "t" =
      some (fourBracket ⟨⟨1, 1, "m"⟩, some "a", some "b", some "a", .completed⟩
        ⟨⟨1, 2, "m"⟩, some "c", some "d", some "c", .completed⟩
        ⟨⟨2, 1, "m"⟩, some "a", some "c", none, .pending⟩) := by
    decide +kernel
  refine ⟨fun bracket hopen => ?_, fun bracket hopen => ?_, fun bracket hopen => ?_, trivial⟩
  · cases hfirst.symm.trans hopen
    exact resultsFit_fourBracket (by decide) (by decide)
  · cases hsecond.symm.trans hopen
    exact resultsFit_fourBracket (by decide) (by decide)
  · cases hthird.symm.trans hopen
    exact resultsFit_fourBracket (by decide) (by decide)

/-- Of four players one wins, after a result was corrected, and the bracket stays
    consistent. -/
theorem fittingRun_consistent_startedTournament :
    ∃ y bracket, ((startedTournament ["a", "b", "c", "d"]).after
      (correctedReports.run "t")).tournaments.findOne "t" = some y ∧
        y.bracket = some bracket ∧ Consistent bracket := by
  have hrow : ((startedTournament ["a", "b", "c", "d"]).tournaments.findOne "t").map
      Tournament.bracket = some (some (generateBracketStructure .SINGLE_ELIMINATION
        (fun _ _ => "m") ["a", "b", "c", "d"])) := by
    decide +kernel
  rcases Option.map_eq_some_iff.mp hrow with ⟨x, hfind, hbracket⟩
  -- The corrected winner of the first match moves on in place of the other.
  have hkey : x.tournamentId = "t" := Table.key_of_findOne hfind
  have hends := fittingRun_consistent (startedTournament ["a", "b", "c", "d"]) x (fun _ _ => "m")
    ["a", "b", "c", "d"] (hkey ▸ hfind) hbracket correctedReports
    (hkey ▸ correctedReports_fitting)
  rw [hkey] at hends
  rcases hends with ⟨y, bracket, hy, hbracket', hcons, -⟩
  exact ⟨y, bracket, hy, hbracket', hcons⟩

end Esports

end SvmCourse
