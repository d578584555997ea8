import SvmCourse.Esports.Calm

/-!
# Cancellation

What a cancellation should do for the players, and that it never does. Joining
locks the fee and then deducts it, so nothing is locked when a match or
tournament is called off, and the cancellation, which pays back by unlocking,
is refused by the first wallet. By then the escrow has booked its refund. An
escrow without deposits refuses the refund before that, so an empty tournament
cannot be cancelled either.

## Main definitions

* `MadeWhole`: A cancelled match with every player paid back.
* `RefundsEveryone`: A cancelled tournament with every player paid back.

## Theorems

* `cancelMatch_never_whole`: No match of a calm run is cancelled.
* `cancelTournament_never_refunds`: No tournament of a calm run is cancelled.
-/

namespace SvmCourse

namespace Esports

open Core Core.Prog

/-- Every player among the given ones has so much more available, and nobody
    else has any other balance. -/
def PaidBack (s t : Db) (players : String → Prop) (amount : Int) : Prop :=
  ∀ playerId, (players playerId → ∃ w w', s.wallets.findOne playerId = some w ∧
      t.wallets.findOne playerId = some w' ∧
      w'.availableBalance = w.availableBalance + amount) ∧
    (¬players playerId → t.wallets.findOne playerId = s.wallets.findOne playerId)

/-- The player takes part in the match, or is registered for the tournament. -/
def Db.entered (db : Db) (source : SourceId) (playerId : String) : Prop :=
  match source.sourceType with
  | .MATCH => ∃ p, db.participants.findOne (source.hex, playerId) = some p
  | .TOURNAMENT => ∃ r, db.registrations.findOne (source.hex, playerId) = some r

/-- Cancelling the match succeeds, and everybody gets the entry fee back. -/
def MadeWhole (s : Db) (matchId : String) (now : Int) : Prop :=
  ∃ m t, (cancelMatch matchId now).eval s = (.ok m, t) ∧
    (∃ row, t.matchRows.findOne matchId = some row ∧ row.status = .CANCELLED) ∧
    (∃ escrow, t.escrows.findOne (matchSource matchId) = some escrow ∧
      escrow.status = .REFUNDED ∧ escrow.currentBalance = 0) ∧
    (∀ p ∈ t.participants.rows, p.matchId = matchId → p.status = .WITHDRAWN) ∧
    PaidBack s t (s.entered (matchSource matchId)) m.entryFee

/-- Cancelling the tournament succeeds, everybody gets the entry fee back, and
    cancelling it again changes nothing of that. -/
def RefundsEveryone (s : Db) (tournamentId : String) (now : Int) : Prop :=
  ∃ x t, (cancelTournament tournamentId now).eval s = (.ok x, t) ∧
    (∃ row, t.tournaments.findOne tournamentId = some row ∧ row.status = .CANCELLED) ∧
    (∃ escrow, t.escrows.findOne (tournamentSource tournamentId) = some escrow ∧
      escrow.currentBalance = 0) ∧
    PaidBack s t (s.entered (tournamentSource tournamentId)) x.entryFee ∧
    ∀ r u again, (cancelTournament tournamentId again).eval t = (r, u) →
      u.wallets = t.wallets ∧ u.escrows = t.escrows ∧ u.registrations = t.registrations

theorem refunded_wallets {s t : Db} {source : SourceId} (h : Refunded s t source) :
    t.wallets = s.wallets := by
  rcases h with ⟨_, _, -, -, -, rfl⟩
  rfl

/-- After every calm run, whatever the match, cancelling it throws and no
    player gets anything back. -/
theorem cancelMatch_never_whole (run : Run) (hrun : CalmRun run) (matchId : String) (now : Int) :
    ¬MadeWhole (Db.empty.after run) matchId now ∧
      ∃ e t, (cancelMatch matchId now).eval (Db.empty.after run) = (.error e, t) ∧
        t.wallets = (Db.empty.after run).wallets := by
  have hends := (ensures_false_iff ..).mp (cancelMatch_calm (ledger_after hrun) matchId now)
  rcases heval : (cancelMatch matchId now).eval (Db.empty.after run) with ⟨r, t⟩
  rw [heval] at hends
  rcases hends with ⟨⟨e, rfl⟩, hstore⟩
  refine ⟨?_, e, t, rfl, ?_⟩
  · rintro ⟨m, u, hok, -⟩
    exact nomatch (Prod.mk.inj (heval.symm.trans hok)).1
  · rcases hstore with ⟨rfl, -⟩ | ⟨-, hrefunded⟩
    · rfl
    · exact refunded_wallets hrefunded

/-- The match is waiting with one player in it. Its cancellation throws, its
    escrow is empty afterwards, and the player has no more than before. -/
theorem not_madeWhole_joinedMatch :
    ¬MadeWhole (Db.empty.after joinedMatch) "m" 0 ∧
      ((cancelMatch "m" 0).eval (Db.empty.after joinedMatch)).2.escrowFunds (matchSource "m") =
        some (0, 1000000) ∧
      ((cancelMatch "m" 0).eval (Db.empty.after joinedMatch)).2.balances "a" =
        some (4000000, 0) := by
  refine ⟨?_, by decide +kernel, by decide +kernel⟩
  rintro ⟨m, t, heval, -⟩
  have hthrows : ((cancelMatch "m" 0).eval (Db.empty.after joinedMatch)).1.toBool = false := by
    decide +kernel
  rw [heval] at hthrows
  exact nomatch hthrows

theorem cancelMatch_never_whole_joinedMatch :
    ¬MadeWhole (Db.empty.after joinedMatch) "m" 0 :=
  (cancelMatch_never_whole joinedMatch (calmRun_calmly (by decide) (by decide)) "m" 0).1

/-- After every calm run, whatever the tournament, cancelling it throws and no
    player gets anything back. -/
theorem cancelTournament_never_refunds (run : Run) (hrun : CalmRun run) (tournamentId : String)
    (now : Int) :
    ¬RefundsEveryone (Db.empty.after run) tournamentId now ∧
      ∃ e t, (cancelTournament tournamentId now).eval (Db.empty.after run) = (.error e, t) ∧
        t.wallets = (Db.empty.after run).wallets := by
  have hends := (ensures_false_iff ..).mp (cancelTournament_calm (ledger_after hrun)
    tournamentId now)
  rcases heval : (cancelTournament tournamentId now).eval (Db.empty.after run) with ⟨r, t⟩
  rw [heval] at hends
  rcases hends with ⟨⟨e, rfl⟩, hstore⟩
  refine ⟨?_, e, t, rfl, ?_⟩
  · rintro ⟨x, u, hok, -⟩
    exact nomatch (Prod.mk.inj (heval.symm.trans hok)).1
  · rcases hstore with ⟨rfl, -⟩ | ⟨-, hrefunded⟩
    · rfl
    · exact refunded_wallets hrefunded

/-- Neither a tournament with one registered player nor one with none can be
    cancelled. The first attempt empties the escrow all the same. -/
theorem not_refundsEveryone_registeredTournament :
    ¬RefundsEveryone (Db.empty.after registeredTournament) "t" 0 ∧
      ¬RefundsEveryone (Db.empty.after (Run.calmly openTournament)) "t" 0 ∧
      ((cancelTournament "t" 0).eval (Db.empty.after registeredTournament)).2.escrowFunds
        (tournamentSource "t") = some (0, 1000000) ∧
      ((cancelTournament "t" 0).eval (Db.empty.after registeredTournament)).2.balances "a" =
        some (4000000, 0) := by
  refine ⟨?_, ?_, by decide +kernel, by decide +kernel⟩
  · rintro ⟨x, t, heval, -⟩
    have hthrows : ((cancelTournament "t" 0).eval
        (Db.empty.after registeredTournament)).1.toBool = false := by
      decide +kernel
    rw [heval] at hthrows
    exact nomatch hthrows
  · rintro ⟨x, t, heval, -⟩
    have hthrows : ((cancelTournament "t" 0).eval
        (Db.empty.after (Run.calmly openTournament))).1.toBool = false := by
      decide +kernel
    rw [heval] at hthrows
    exact nomatch hthrows

theorem cancelTournament_never_refunds_registeredTournament :
    ¬RefundsEveryone (Db.empty.after registeredTournament) "t" 0 :=
  (cancelTournament_never_refunds registeredTournament (calmRun_calmly (by decide) (by decide))
    "t" 0).1

end Esports

end SvmCourse
