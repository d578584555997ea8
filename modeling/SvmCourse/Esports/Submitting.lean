import SvmCourse.Esports.Calm

/-!
# Submitting a Result

What `submitResult` leaves behind when the store never fails. A result that
does not pass the checks leaves nothing. One that does is recorded, and the
participants are placed, whatever comes after. Then either the payout goes
through, the escrow is released and the match is settled, or the payout is
refused and the match stays completed, with its escrow as it was.

## Main definitions

* `lastPlacement`, `finished`: What writing placements makes of a row.
* `writtenPlacements`: The placements a result writes, in order.
* `Submittable`: The result passes the checks.
* `Released`: The escrow after a payout.

## Theorems

* `distribute_calm`: A payout releases the escrow or leaves it alone.
* `submitResult_calm`: What submitting a result leaves behind.
-/

namespace SvmCourse

namespace Esports

open Core Core.Prog

/-! ### Writing placements -/

/-- The placement that was written last for a player. -/
def lastPlacement (written : List (String × Nat)) (playerId : String) : Option Nat :=
  (written.reverse.find? fun w => w.1 = playerId).map Prod.snd

theorem lastPlacement_append (written written' : List (String × Nat)) (playerId : String) :
    lastPlacement (written ++ written') playerId =
      (lastPlacement written' playerId).or (lastPlacement written playerId) := by
  unfold lastPlacement
  rw [List.reverse_append, List.find?_append]
  cases written'.reverse.find? fun w => w.1 = playerId with
  | none => rfl
  | some w => rfl

theorem lastPlacement_singleton (w : String × Nat) (playerId : String) :
    lastPlacement [w] playerId = if w.1 = playerId then some w.2 else none := by
  unfold lastPlacement
  by_cases h : w.1 = playerId
  · simp [h]
  · simp [h]

/-- A row once the placements are written. -/
def finished (written : List (String × Nat)) (p : MatchParticipant) : MatchParticipant :=
  match lastPlacement written p.playerId with
  | none => p
  | some place => { p with status := .FINISHED, placement := some place }

theorem finished_key (written : List (String × Nat)) (p : MatchParticipant) :
    (finished written p).key = p.key := by
  unfold finished
  cases lastPlacement written p.playerId with
  | none => rfl
  | some place => rfl

theorem finished_append (written written' : List (String × Nat)) (p : MatchParticipant) :
    finished (written ++ written') p = finished written' (finished written p) := by
  have hplayer : (finished written p).playerId = p.playerId :=
    congrArg Prod.snd (finished_key written p)
  unfold finished at hplayer ⊢
  rw [hplayer, lastPlacement_append]
  cases lastPlacement written' p.playerId with
  | some place => cases lastPlacement written p.playerId <;> rfl
  | none => rfl

/-- The participants of one match rewritten, and the others left alone. -/
def rowsFinished (matchId : String) (written : List (String × Nat)) (p : MatchParticipant) :
    MatchParticipant :=
  if p.matchId = matchId then finished written p else p

theorem rowsFinished_append (matchId : String) (written written' : List (String × Nat))
    (p : MatchParticipant) : rowsFinished matchId (written ++ written') p =
      rowsFinished matchId written' (rowsFinished matchId written p) := by
  unfold rowsFinished
  by_cases hmatch : p.matchId = matchId
  · have hkey : (finished written p).matchId = p.matchId :=
      congrArg Prod.fst (finished_key written p)
    simp only [hmatch, hkey, if_true, finished_append]
  · simp only [hmatch, if_false]

theorem finishParticipant_eval (matchId playerId : String) (placement : Nat) (s : Db) :
    ∃ ps, (finishParticipant matchId playerId placement).eval s =
        (.ok (), { s with participants := ps }) ∧
      ps.rows = s.participants.rows.map (rowsFinished matchId [(playerId, placement)]) := by
  refine ⟨_, rfl, List.map_congr_left fun p _ => ?_⟩
  unfold rowsFinished finished MatchParticipant.key
  rw [lastPlacement_singleton]
  by_cases hmatch : p.matchId = matchId
  · by_cases hplayer : playerId = p.playerId
    · simp [hmatch, hplayer]
    · have hne : ¬p.playerId = playerId := fun h => hplayer h.symm
      simp [hmatch, hplayer, hne]
  · simp [hmatch]

/-- Placements are written into the rows of the match and nowhere else. -/
theorem finishAll_rows {β : Type} (matchId : String) (xs : List β) (playerOf : β → String)
    (placeOf : β → Nat) (s : Db) :
    (each xs fun x => finishParticipant matchId (playerOf x) (placeOf x)).Ensures False s
      fun r t => r = .ok () ∧ t = { s with participants := t.participants } ∧
        t.participants.rows = s.participants.rows.map
          (rowsFinished matchId (xs.map fun x => (playerOf x, placeOf x))) := by
  -- On the players: each is written by a statement of its own.
  induction xs generalizing s with
  | nil =>
      refine ⟨rfl, rfl, ?_⟩
      have hsame : rowsFinished matchId [] = id := by
        funext p
        unfold rowsFinished
        split <;> rfl
      rw [List.map_nil, hsame, List.map_id]
  | cons x xs ih =>
      rcases finishParticipant_eval matchId (playerOf x) (placeOf x) s with ⟨ps, heval, hps⟩
      refine ensures_bind ?_
      rw [ensures_false_iff, heval]
      refine ensures_mono (ih _) fun r t ht => ⟨ht.1, ht.2.1, ht.2.2.trans ?_⟩
      rw [hps, List.map_map]
      refine List.map_congr_left fun p _ => ?_
      exact (rowsFinished_append matchId [(playerOf x, placeOf x)] _ p).symm

/-! ### Payouts -/

/-- The rows of the deposits into escrows. -/
def Db.deposits (db : Db) : List EscrowTransaction :=
  db.escrowTxs.filter fun tx => tx.type = .DEPOSIT

/-- The payout went through and left the escrow released. -/
def Released (payout : Payout) (s t : Db) : Prop :=
  ∃ escrow fee dists, PayoutReady payout s escrow fee dists ∧
    t.escrows = s.escrows.save (escrow.afterRelease (paymentsOf payout.source dists).total fee)

/-- The escrow as a payout leaves it. -/
theorem Released.find {payout : Payout} {s t : Db} (h : Released payout s t) :
    ∃ escrow fee dists, PayoutReady payout s escrow fee dists ∧
      t.escrows.findOne payout.source =
        some (escrow.afterRelease (paymentsOf payout.source dists).total fee) := by
  rcases h with ⟨escrow, fee, dists, hready, hescrows⟩
  have hsource : escrow.escrowId = payout.source := Table.key_of_findOne hready.find
  have hsaved := Table.findOne_save_self s.escrows
    (escrow.afterRelease (paymentsOf payout.source dists).total fee)
  rw [← hescrows] at hsaved
  exact ⟨escrow, fee, dists, hready, hsource ▸ hsaved⟩

/-- Whether a payout is ready or refused is a matter of the escrows alone. -/
theorem PayoutReady.congr {payout : Payout} {s t : Db} {escrow : EscrowAccount} {fee : Int}
    {dists : List PrizeCalculation} (hescrows : t.escrows = s.escrows)
    (h : PayoutReady payout t escrow fee dists) : PayoutReady payout s escrow fee dists :=
  ⟨hescrows ▸ h.find, h.fee_eq, h.canRelease, h.calculated, h.total_le⟩

theorem PayoutRefused.congr {payout : Payout} {s t : Db} (hescrows : t.escrows = s.escrows)
    (h : PayoutRefused payout t) : PayoutRefused payout s := by
  unfold PayoutRefused at h
  rwa [hescrows] at h

/-- A view of the store that no part of a payout changes. -/
structure PayoutKeeps {γ : Type} (payout : Payout) (view : Db → γ) : Prop where
  credit : ∀ dist s, (creditOne payout.source payout.mark dist).Ensures False s fun _ t =>
    view t = view s ∧ t.escrows = s.escrows
  release : ∀ (s : Db) txs escrow, (∀ tx ∈ txs, tx.type ≠ .DEPOSIT) →
    view ((s.withEscrowTxs txs).withEscrow escrow) = view s
  prizes : ∀ (s : Db) prizes, view (s.withPrizes prizes) = view s

/-- With a calm store a payout releases the escrow or leaves it alone. -/
theorem distribute_calm {γ : Type} {payout : Payout} {view : Db → γ}
    (hkeeps : PayoutKeeps payout view) (s : Db) :
    (distribute payout).Ensures False s fun r t => view t = view s ∧ match r with
      | .ok _ => Released payout s t
      | .error _ => t.escrows = s.escrows ∧ PayoutRefused payout s := by
  -- The invariant of the credits: the escrow is released and the view is as it was.
  have hends := distribute_ensures (C := False)
    (J := fun _ t => view t = view s ∧ Released payout s t) payout s ?_ ?_ ?_
  · refine ensures_mono hends fun r t ht => ?_
    cases r with
    | ok record => exact ht
    | error e =>
        rcases ht with ⟨prizes, rfl, hfalse | hrefused⟩ | ⟨hfalse, -⟩ | ⟨hfalse, -⟩
        · exact hfalse.elim
        · exact ⟨hkeeps.prizes s prizes, rfl, hrefused⟩
        · exact hfalse.elim
        · exact hfalse.elim
  · intro escrow fee dists hready
    exact ⟨hkeeps.release s _ _ (releaseTxs_type _ fee), escrow, fee, dists, hready, rfl⟩
  · rintro dist rest t ⟨hview, escrow, fee, dists, hready, hescrows⟩
    refine ensures_mono (hkeeps.credit dist t) fun _ u hu => ?_
    exact ⟨hu.1.trans hview, escrow, fee, dists, hready, hu.2.trans hescrows⟩
  · rintro rest t prizes ⟨hview, hreleased⟩
    exact ⟨(hkeeps.prizes t prizes).trans hview, hreleased⟩

/-- A participant without the prize. -/
def MatchParticipant.unpaid (p : MatchParticipant) : MatchParticipant := { p with prizeWon := 0 }

/-- What a match payout leaves alone. -/
def matchView (db : Db) :=
  (db.matchRows, db.tournaments, db.registrations,
    db.participants.rows.map MatchParticipant.unpaid, db.deposits)

theorem deposits_append {s : Db} {txs : List EscrowTransaction}
    (htxs : ∀ tx ∈ txs, tx.type ≠ .DEPOSIT) :
    (s.withEscrowTxs txs).deposits = s.deposits := by
  have hnone : txs.filter (fun tx => tx.type = .DEPOSIT) = [] := by
    rw [List.filter_eq_nil_iff]
    exact fun tx htx => mt of_decide_eq_true (htxs tx htx)
  unfold Db.deposits
  exact (List.filter_append ..).trans ((congrArg _ hnone).trans (List.append_nil _))

theorem matchPayout_keeps (m : Match) (participants : List MatchParticipant) :
    PayoutKeeps (matchPayout m participants) matchView where
  credit dist s := by
    refine ensures_bind (moveFunds_calm (fun _ => ⟨rfl, rfl⟩) fun _ _ _ => ?_)
    refine ensures_perform ⟨?_, rfl⟩ False.elim
    -- The prize is written into the rows, which the view leaves out.
    have hrows : ∀ q : Table MatchParticipant.key,
        (q.update (fun p => p.key = (m.matchId, dist.playerId))
          (fun p => { p with prizeWon := dist.amount }) fun _ => rfl).rows.map
            MatchParticipant.unpaid = q.rows.map MatchParticipant.unpaid :=
      fun q => Table.map_update fun _ _ _ => rfl
    exact congrArg (fun rows => (s.matchRows, s.tournaments, s.registrations, rows, s.deposits))
      (hrows s.participants)
  release s txs escrow htxs := by
    have hdeposits := deposits_append (s := s) htxs
    exact congrArg (fun deposits => (s.matchRows, s.tournaments, s.registrations,
      s.participants.rows.map MatchParticipant.unpaid, deposits)) hdeposits
  prizes _ _ := rfl

/-! ### Submitting -/

/-- The placements a result writes, in order. -/
def writtenPlacements (request : SubmitResultRequest) (participantPlayerIds : List String) :
    List (String × Nat) :=
  (rankedPlayerIds request).zipIdx 1 ++
    (participantPlayerIds.filter fun id => !request.winnerIds.contains id).map
      fun id => (id, request.winnerIds.length + 1)

/-- The participants of a match. -/
def Db.participantsOf (db : Db) (matchId : String) : List MatchParticipant :=
  db.participants.find fun p => p.matchId = matchId

/-- The ids of the participants of the match of the request. -/
def SubmitResultRequest.playerIds (request : SubmitResultRequest) (s : Db) : List String :=
  (s.participantsOf request.matchId).map MatchParticipant.playerId

/-- The result is for this match, which is in progress, and passes the checks. -/
structure Submittable (s : Db) (request : SubmitResultRequest) (m : Match) : Prop where
  find : s.matchRows.findOne request.matchId = some m
  playing : m.status = .IN_PROGRESS
  checked : checkResult m request
    ((s.participantsOf request.matchId).map MatchParticipant.playerId) = .ok ()

/-- The payout a submitted result asks for. -/
def resultPayout (s : Db) (request : SubmitResultRequest) (m : Match) : Payout :=
  matchPayout (afterResult m request) (s.participantsOf request.matchId)

/-- A result that passes the checks is recorded and the participants are
    placed. The match is settled if the payout goes through. -/
structure ResultRecorded (s t : Db) (request : SubmitResultRequest) (m row : Match) : Prop where
  matchRows : t.matchRows = s.matchRows.save row
  tournaments : t.tournaments = s.tournaments
  registrations : t.registrations = s.registrations
  participants : t.participants.rows.map MatchParticipant.unpaid =
    s.participants.rows.map fun p => (rowsFinished request.matchId (writtenPlacements request
      ((s.participantsOf request.matchId).map MatchParticipant.playerId)) p).unpaid
  deposits : t.deposits = s.deposits

/-- The winners are placed in order, and the others behind them, each in a row of the
    match. -/
theorem placeEverybody_rows {α : Type} {rest : Service α}
    {Q : Except ServiceError α → Db → Prop} (request : SubmitResultRequest) (matchId : String)
    (playerIds : List String) (s : Db)
    (hrest : ∀ t : Db, t = { s with participants := t.participants } →
      t.participants.rows = s.participants.rows.map
        (rowsFinished matchId (writtenPlacements request playerIds)) → rest.Ensures False t Q) :
    ((each ((rankedPlayerIds request).zipIdx 1) fun ranked =>
        finishParticipant matchId ranked.1 ranked.2).bind fun _ =>
      (each (playerIds.filter fun id => !request.winnerIds.contains id) fun loserId =>
        finishParticipant matchId loserId (request.winnerIds.length + 1)).bind fun _ =>
          rest).Ensures False s Q := by
  refine ensures_bind (ensures_mono (finishAll_rows matchId _ Prod.fst Prod.snd s)
    fun r t ht => ?_)
  rcases ht with ⟨rfl, ht, hplaced⟩
  refine ensures_bind (ensures_mono (finishAll_rows matchId _ id
    (fun _ => request.winnerIds.length + 1) t) fun r u hu => ?_)
  rcases hu with ⟨rfl, hu, hfinished⟩
  refine hrest u (by rw [hu, ht]) ?_
  rw [hfinished, hplaced, List.map_map]
  refine List.map_congr_left fun p _ => ?_
  simp only [Function.comp_apply, ← rowsFinished_append, writtenPlacements, Prod.mk.eta,
    List.map_id', id_eq]

/-- What submitting a result leaves behind. -/
theorem submitResult_calm (request : SubmitResultRequest) (s : Db) :
    (submitResult request).Ensures False s fun r t =>
      ((∃ e, r = .error e) ∧ t = s ∧ ∀ m, ¬Submittable s request m) ∨
      ∃ m, Submittable s request m ∧ match r with
        | .ok _ => Released (resultPayout s request m) s t ∧
            ResultRecorded s t request m { afterResult m request with status := .SETTLED }
        | .error _ => t.escrows = s.escrows ∧ PayoutRefused (resultPayout s request m) s ∧
            ResultRecorded s t request m (afterResult m request) := by
  refine ensures_bind (ensures_mono (getMatchById_ensures request.matchId s) fun r t ht => ?_)
  rcases ht with ⟨rfl, hr⟩
  cases r with
  | error e =>
      refine Or.inl ⟨⟨e, rfl⟩, rfl, fun m hm => ?_⟩
      exact nomatch hm.find.symm.trans (hr.resolve_left id)
  | ok m =>
  rcases hr with ⟨hfind, -⟩
  have hkey : m.matchId = request.matchId := Table.key_of_findOne hfind
  have honly : ∀ m', Submittable t request m' → m' = m.toMatch :=
    fun m' hm' => Option.some.inj (hm'.find.symm.trans hfind)
  refine ensures_bind (ensures_require (fun hplaying => ?_) fun hnot => ?_)
  swap
  · refine Or.inl ⟨⟨_, rfl⟩, rfl, fun m' hm' => ?_⟩
    have hstatus := hm'.playing
    rw [honly m' hm'] at hstatus
    exact of_decide_eq_false hnot hstatus
  refine ensures_bind (ensures_perform ?_ False.elim)
  have hparticipants : (t.participants.find fun p => p.matchId = m.matchId) =
      t.participantsOf request.matchId := by
    rw [hkey]
    rfl
  rw [hparticipants]
  refine ensures_bind (ensures_compute ?_)
  cases hcheck : checkResult m.toMatch request
      ((t.participantsOf request.matchId).map MatchParticipant.playerId) with
  | error e =>
      refine Or.inl ⟨⟨e, rfl⟩, rfl, fun m' hm' => ?_⟩
      have hchecked := hm'.checked
      rw [honly m' hm'] at hchecked
      exact nomatch hchecked.symm.trans hcheck
  | ok _ =>
  have hsubmit : Submittable t request m.toMatch := ⟨hfind, of_decide_eq_true hplaying, hcheck⟩
  refine ensures_bind (ensures_perform ?_ False.elim)
  -- From here on the result is recorded, and only the payout can fail.
  refine placeEverybody_rows request m.matchId _ _ fun v hv hrows => ?_
  rw [hkey] at hrows
  have hescrows : v.escrows = t.escrows := by rw [hv]
  have hmatches : v.matchRows = t.matchRows.save (afterResult m.toMatch request) := by rw [hv]
  have hrest : v = { t with matchRows := v.matchRows, participants := v.participants } := by
    rw [hv]
  refine ensures_bind (ensures_mono (distribute_calm (matchPayout_keeps _ _) v) fun r w hw => ?_)
  rcases hw with ⟨hview, hr⟩
  simp only [matchView, Prod.mk.injEq] at hview
  rcases hview with ⟨hmatchRows, htournaments, hregistrations, hunpaid, hdeposits⟩
  have hrecorded : ResultRecorded t w request m.toMatch (afterResult m.toMatch request) := by
    refine ⟨hmatchRows.trans hmatches, htournaments.trans ?_, hregistrations.trans ?_,
      hunpaid.trans ?_, hdeposits.trans ?_⟩
    · rw [hrest]
    · rw [hrest]
    · rw [hrows, List.map_map]
      rfl
    · rw [hrest]
      rfl
  have hpayout : matchPayout (afterResult m.toMatch request) (t.participantsOf request.matchId) =
      resultPayout t request m.toMatch := rfl
  cases r with
  | error e =>
      rcases hr with ⟨hsame, hrefused⟩
      exact Or.inr ⟨m.toMatch, hsubmit, hsame.trans hescrows, hrefused.congr hescrows, hrecorded⟩
  | ok record =>
      rcases hr with ⟨escrow, fee, dists, hready, hreleased⟩
      refine ensures_bind (ensures_perform ?_ False.elim)
      refine Or.inr ⟨m.toMatch, hsubmit, ⟨escrow, fee, dists, hready.congr hescrows, ?_⟩, ?_⟩
      · exact hreleased.trans (by rw [hescrows, hpayout])
      · refine ⟨?_, hrecorded.tournaments, hrecorded.registrations, hrecorded.participants,
          hrecorded.deposits⟩
        change w.matchRows.save _ = _
        rw [hrecorded.matchRows]
        exact Table.save_save rfl

end Esports

end SvmCourse
