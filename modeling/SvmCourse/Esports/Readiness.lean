import SvmCourse.Esports.Entering
import SvmCourse.Esports.Solvency

/-!
# Readiness

Whether a match with enough players can be played. A join looks at the players
the match object was loaded with, and the joining player is not one of them, so
the match becomes ready one join late. The one state in which this shows is the
state with exactly the minimum number of players. If the match has no further
seat, no later join repairs it.

## Main definitions

* `Db.seats`: The number of players in a match.
* `Starts`: The match can be started.
* `Playable`: The match is ready exactly when it has enough players, and can be
  started when it is ready.

## Theorems

* `startMatch_starts`: A ready match with enough players starts.
* `joined_playable_iff`: After which joins a match is playable.
-/

namespace SvmCourse

namespace Esports

open Core Core.Prog

/-- The number of players in a match. -/
def Db.seats (db : Db) (matchId : String) : Nat :=
  (db.participants.find fun p => p.matchId = matchId).length

/-- Starting the match succeeds, locks the active escrow and leaves the match in
    progress. -/
def Starts (t : Db) (matchId : String) (now : Int) : Prop :=
  ∃ m u, (startMatch matchId now).eval t = (.ok m, u) ∧
    (∃ row, u.matchRows.findOne matchId = some row ∧ row.status = .IN_PROGRESS) ∧
    (∃ escrow, t.escrows.findOne (matchSource matchId) = some escrow ∧ escrow.status = .ACTIVE) ∧
    ∃ escrow, u.escrows.findOne (matchSource matchId) = some escrow ∧ escrow.status = .LOCKED

/-- The match is ready exactly when it has enough players, and a ready match can
    be started. -/
def Playable (t : Db) (matchId : String) : Prop :=
  ∃ m, t.matchRows.findOne matchId = some m ∧
    (m.status = .READY ↔ m.minPlayers ≤ t.seats matchId) ∧
    (m.status = .READY → ∀ now, Starts t matchId now)

/-- A ready match with enough players and an active escrow starts. -/
theorem startMatch_starts {t : Db} {m : Match} {escrow : EscrowAccount}
    (hfind : t.matchRows.findOne m.matchId = some m) (hready : m.status = .READY)
    (henough : m.minPlayers ≤ t.seats m.matchId)
    (hescrow : t.escrows.findOne m.source = some escrow) (hactive : escrow.status = .ACTIVE)
    (now : Int) : Starts t m.matchId now := by
  have hends : (startMatch m.matchId now).Ensures False t fun r u => (∃ m', r = .ok m') ∧
      (∃ row, u.matchRows.findOne m.matchId = some row ∧ row.status = .IN_PROGRESS) ∧
      ∃ found, u.escrows.findOne m.source = some found ∧ found.status = .LOCKED := by
    refine ensures_bind (getMatchById_calm (fun _ hnone => nomatch hnone.symm.trans hfind)
      fun loaded hrow hloaded => ?_)
    -- The match passes its check, since it is ready and has enough players.
    have hsame : loaded.toMatch = m := Option.some.inj (hrow.symm.trans hfind)
    refine ensures_bind (ensures_require (fun _ => ?_) fun hno => ?_)
    swap
    · -- The loaded players are the stored ones.
      have hcan : loaded.canStart = true := by
        unfold LoadedMatch.canStart LoadedMatch.isReady
        rw [hsame, hready, hloaded]
        exact Bool.and_eq_true_iff.mpr ⟨rfl, decide_eq_true henough⟩
      exact nomatch hno.symm.trans hcan
    refine lockBySource_ensures m.source t (fun found hfound _ => ?_) fun hrefused =>
      absurd hactive (hrefused.resolve_left id escrow hescrow)
    have hkey : found.escrowId = m.source := Table.key_of_findOne hfound
    refine ensures_bind (ensures_perform ?_ False.elim)
    refine ensures_bind (ensures_perform ?_ False.elim)
    rw [hsame]
    refine ⟨⟨_, rfl⟩, ⟨_, Table.findOne_save_self _ _, rfl⟩,
      { found with status := .LOCKED }, ?_, rfl⟩
    change (t.escrows.save { found with status := .LOCKED }).findOne m.source = _
    rw [← hkey]
    exact Table.findOne_save_self t.escrows { found with status := .LOCKED }
  rcases heval : (startMatch m.matchId now).eval t with ⟨r, u⟩
  rw [ensures_false_iff, heval] at hends
  rcases hends with ⟨⟨m', rfl⟩, hrow, hlocked⟩
  exact ⟨m', u, heval, hrow, ⟨escrow, hescrow, hactive⟩, hlocked⟩

/-- The store after a successful join: one more player, the escrow active, and
    the match row changed by the players counted before. -/
theorem joined_store {s t : Db} {request : JoinMatchRequest} {m : Match} {p : MatchParticipant}
    (hlocked : ∀ wallet ∈ s.wallets.rows, 0 ≤ wallet.lockedBalance)
    (hfind : s.matchRows.findOne request.matchId = some m)
    (hjoin : (joinMatch request).eval s = (.ok p, t)) :
    ∃ loaded : LoadedMatch, loaded.toMatch = m ∧
      loaded.participants.length = s.seats request.matchId ∧ loaded.isJoinable = true ∧
      t.matchRows.findOne request.matchId = some (afterJoin loaded) ∧
      t.seats request.matchId = s.seats request.matchId + 1 ∧
      ∃ escrow, t.escrows.findOne (matchSource request.matchId) = some escrow ∧
        escrow.status = .ACTIVE := by
  have hkey : m.matchId = request.matchId := Table.key_of_findOne hfind
  -- What the check found is what the entry books.
  have hends : (joinMatch request).Ensures False s fun r t => ∀ p, r = .ok p →
      ∃ loaded wallet escrow, s.matchRows.findOne request.matchId = some loaded.toMatch ∧
        (loaded.participants = s.participants.find fun p => p.matchId = request.matchId) ∧
        loaded.isJoinable = true ∧
        s.participants.findOne (loaded.matchId, request.playerId) = none ∧
        EntryPaid s (joinEntry request loaded) wallet escrow ∧
        t = { s.afterEntry (joinEntry request loaded) wallet escrow with
          participants := s.participants.save (newParticipant loaded request wallet)
          matchRows := s.matchRows.save (afterJoin loaded) } := by
    refine ensures_bind (ensures_mono (checkJoin_ensures request s) fun r u hu => ?_)
    rcases hu with ⟨rfl, hchecked⟩
    cases r with
    | error e => exact fun _ h => nomatch h
    | ok loaded =>
        rcases hchecked loaded rfl with ⟨hrow, hparticipants, hjoinable, hnew⟩
        refine ensures_mono (enter_calm hlocked fun _ _ => ⟨_, rfl⟩) fun r v hv => ?_
        cases r with
        | error e => exact fun _ h => nomatch h
        | ok p =>
            rcases hv with ⟨wallet, escrow, hpaid, rfl⟩
            exact fun _ _ => ⟨loaded, wallet, escrow, hrow, hparticipants, hjoinable,
              hnew, hpaid, rfl⟩
  rw [ensures_false_iff, hjoin] at hends
  rcases hends p rfl with ⟨loaded, wallet, escrow, hrow, hparticipants, hjoinable, hnew, hpaid, rfl⟩
  have hsame : loaded.toMatch = m := Option.some.inj (hrow.symm.trans hfind)
  have hid : loaded.matchId = request.matchId := (congrArg Match.matchId hsame).trans hkey
  refine ⟨loaded, hsame, ?_, hjoinable, ?_, ?_, escrow.afterDeposit loaded.entryFee, ?_, ?_⟩
  · rw [hparticipants]
    rfl
  · change (s.matchRows.save (afterJoin loaded)).findOne request.matchId = _
    rw [← hid]
    exact Table.findOne_save_self s.matchRows (afterJoin loaded)
  · -- The participant is new, so there is one more.
    unfold Db.seats
    change ((s.participants.save (newParticipant loaded request wallet)).find _).length = _
    rw [Table.find_save_new hnew, List.length_append, List.length_singleton]
    exact decide_eq_true hid
  · have hto : escrow.escrowId = matchSource request.matchId :=
      (Table.key_of_findOne hpaid.findEscrow).trans (congrArg matchSource hid)
    change (s.escrows.save (escrow.afterDeposit loaded.entryFee)).findOne _ = _
    rw [← hto]
    exact Table.findOne_save_self s.escrows (escrow.afterDeposit loaded.entryFee)
  · exact afterDeposit_active hpaid.canDeposit loaded.entryFee

/-- The match becomes ready by the players it was loaded with. -/
theorem afterJoin_ready {m : LoadedMatch} (hjoinable : m.isJoinable = true) :
    (afterJoin m).status = .READY ↔ m.minPlayers ≤ m.participants.length := by
  -- A match that can be joined is not ready before.
  have hwaiting : (if m.status = .CREATED then MatchStatus.WAITING else m.status) ≠ .READY := by
    unfold LoadedMatch.isJoinable at hjoinable
    rw [Bool.and_eq_true] at hjoinable
    cases hstatus : m.status <;> rw [hstatus] at hjoinable <;>
      first | decide | exact absurd hjoinable.1 (by decide)
  unfold afterJoin LoadedMatch.isReady
  simp only [decide_eq_true_eq]
  split
  · next h => exact ⟨fun _ => h, fun _ => rfl⟩
  · next h => exact ⟨fun hstatus => absurd hstatus hwaiting, fun hle => absurd hle h⟩

/-- From every reachable store, a join that succeeds leaves the match playable
    unless it brings the players to exactly the minimum. -/
theorem joined_playable_iff (run : Run) (haccepted : run.Accepted) (request : JoinMatchRequest)
    (m : Match) (p : MatchParticipant) (t : Db)
    (hfind : (Db.empty.after run).matchRows.findOne request.matchId = some m)
    (hjoin : (joinMatch request).eval (Db.empty.after run) = (.ok p, t)) :
    Playable t request.matchId ↔
      (Db.empty.after run).seats request.matchId + 1 ≠ m.minPlayers := by
  have hlocked := (solvent_after haccepted solvent_empty).1.locked
  generalize Db.empty.after run = s at hfind hjoin hlocked ⊢
  rcases joined_store hlocked hfind hjoin with
    ⟨loaded, hsame, hcount, hjoinable, hrow, hseats, escrow, hescrow, hactive⟩
  have hkey : (afterJoin loaded).matchId = request.matchId := Table.key_of_findOne hrow
  have hloaded : loaded.minPlayers = m.minPlayers := congrArg Match.minPlayers hsame
  have hmin : (afterJoin loaded).minPlayers = m.minPlayers := hloaded
  have hready := afterJoin_ready hjoinable
  rw [hcount, hloaded] at hready
  constructor
  · -- At exactly the minimum the players counted before are one too few.
    rintro ⟨row, hfound, hiff, -⟩ hexact
    obtain rfl : row = afterJoin loaded := Option.some.inj (hfound.symm.trans hrow)
    rw [hready, hmin, hseats] at hiff
    omega
  · intro hne
    have hiff : m.minPlayers ≤ s.seats request.matchId ↔
        m.minPlayers ≤ s.seats request.matchId + 1 := by omega
    refine ⟨afterJoin loaded, hrow, ?_, fun hstatus now => ?_⟩
    · rw [hready, hmin, hseats]
      exact hiff
    · rw [← hkey] at hrow hescrow hseats ⊢
      refine startMatch_starts hrow hstatus ?_ hescrow hactive now
      rw [hmin, hseats, hkey]
      exact hiff.mp (hready.mp hstatus)

/-- Funded players in a match for two or three, all but the last one joined. -/
def almostFull : Run :=
  Run.calmly (fundPlayers ["a", "b", "c"] 5000000 ++
    [.createMatch { hex := "m", entryFee := 1000000 },
     .joinMatch { matchId := "m", playerId := "a" },
     .createMatch { hex := "n", entryFee := 1000000, maxPlayers := 3 },
     .joinMatch { matchId := "n", playerId := "a" },
     .joinMatch { matchId := "n", playerId := "b" }])

/-- The second player of a match for two joins, the match stays waiting, and it
    cannot be started. -/
theorem not_playable_full :
    ((joinMatch { matchId := "m", playerId := "b" }).eval
        (Db.empty.after almostFull)).1.toBool = true ∧
      ¬Playable ((joinMatch { matchId := "m", playerId := "b" }).eval
        (Db.empty.after almostFull)).2 "m" ∧
      ((startMatch "m" 0).eval ((joinMatch { matchId := "m", playerId := "b" }).eval
        (Db.empty.after almostFull)).2).1.toBool = false := by
  refine ⟨by decide +kernel, ?_, by decide +kernel⟩
  rintro ⟨m, hfind, hiff, -⟩
  -- There are enough players and the match waits all the same.
  have hrow : (((joinMatch { matchId := "m", playerId := "b" }).eval
      (Db.empty.after almostFull)).2.matchRows.findOne "m").map
        (fun m => (m.status, m.minPlayers)) = some (.WAITING, 2) := by
    decide +kernel
  have hseats : ((joinMatch { matchId := "m", playerId := "b" }).eval
      (Db.empty.after almostFull)).2.seats "m" = 2 := by
    decide +kernel
  rw [hfind, Option.map_some, Option.some.injEq, Prod.mk.injEq] at hrow
  rw [hrow.1, hrow.2, hseats] at hiff
  exact nomatch hiff.mpr (le_refl 2)

/-- The third player of a match for three leaves it playable. -/
theorem joined_playable_iff_third :
    Playable ((joinMatch { matchId := "n", playerId := "c" }).eval
      (Db.empty.after almostFull)).2 "n" := by
  have hrow : ((Db.empty.after almostFull).matchRows.findOne "n").isSome = true := by
    decide +kernel
  have hjoins : ((joinMatch { matchId := "n", playerId := "c" }).eval
      (Db.empty.after almostFull)).1.toBool = true := by
    decide +kernel
  have hmin : ((Db.empty.after almostFull).matchRows.findOne "n").map Match.minPlayers =
      some 2 := by
    decide +kernel
  rcases Option.isSome_iff_exists.mp hrow with ⟨m, hfind⟩
  rcases heval : (joinMatch { matchId := "n", playerId := "c" }).eval (Db.empty.after almostFull)
    with ⟨r, t⟩
  rw [heval] at hjoins
  cases r with
  | error e => exact nomatch hjoins
  | ok p =>
      -- Two had joined before, which is the minimum.
      refine (joined_playable_iff almostFull (by decide) { matchId := "n", playerId := "c" } m p t
        hfind heval).mpr ?_
      have htwo : (Db.empty.after almostFull).seats "n" = 2 := by decide +kernel
      rw [hfind, Option.map_some, Option.some.injEq] at hmin
      rw [htwo, hmin]
      decide

end Esports

end SvmCourse
