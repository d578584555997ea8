import SvmCourse.Esports.Ledger
import SvmCourse.Esports.System

/-!
# Calm Calls

Every public call, run with a store that never fails, is a chain of effects,
and the chain contains a refund exactly when the call is a cancellation whose
escrow can be refunded.

## Main definitions

* `Call.refunds`: The call is a cancellation that will refund an escrow.
* `Makes`: A method is a chain of effects.

## Theorems

* `call_makes`: Every public call is a chain of effects.
* `ledger_after`: The invariant holds after every calm run.
-/

namespace SvmCourse

namespace Esports

open Core Core.Prog

/-- The call is a cancellation that passes its check on the status and finds an
    escrow it can refund. -/
def Call.refunds (call : Call) (s : Db) : Prop :=
  match call with
  | .cancelMatch matchId _ => ∃ m, s.matchRows.findOne matchId = some m ∧ m.over = false ∧
      s.refundable (matchSource matchId)
  | .cancelTournament tournamentId _ => ∃ t, s.tournaments.findOne tournamentId = some t ∧
      t.status ≠ .COMPLETED ∧ s.refundable (tournamentSource tournamentId)
  | _ => False

/-- Run with a store that never fails, the method is a chain of effects. -/
def Makes (R : Prop) {α : Type} (p : Service α) (s : Db) : Prop :=
  p.Ensures False s fun _ t => Effects R s t

section Combinators

variable {R : Prop} {α β : Type} {s t : Db}

theorem effects_one (h : Effect R s t) : Effects R s t := Relation.ReflTransGen.single h

/-- Sequencing: the second method starts where the first one ends, and may use
    what the first one found out. -/
theorem makes_then {p : Service α} {f : α → Service β} {P : α → Db → Prop}
    (hp : p.Ensures False s fun r t => Effects R s t ∧ ∀ a, r = .ok a → P a t)
    (hf : ∀ a t, Effects R s t → P a t → Makes R (f a) t) : Makes R (p.bind f) s := by
  refine ensures_bind (ensures_mono hp fun r t ht => ?_)
  cases r with
  | error e => exact ht.1
  | ok a => exact ensures_mono (hf a t ht.1 (ht.2 a rfl)) fun _ _ hu => ht.1.trans hu

/-- A method that begins by reading. -/
theorem makes_read {p : Service α} {f : α → Service β} {P : α → Prop}
    (hp : p.Ensures False s fun r t => t = s ∧ ∀ a, r = .ok a → P a)
    (hf : ∀ a, P a → Makes R (f a) s) : Makes R (p.bind f) s := by
  refine ensures_bind (ensures_mono hp fun r t ht => ?_)
  rcases ht with ⟨rfl, ha⟩
  cases r with
  | error e => exact Relation.ReflTransGen.refl
  | ok a => exact hf a (ha a rfl)

theorem makes_require {ok : Bool} {e : ServiceError} {f : Unit → Service β}
    (hf : ok = true → Makes R (f ()) s) : Makes R ((require ok e).bind f) s :=
  ensures_bind (ensures_require hf fun _ => Relation.ReflTransGen.refl)

theorem makes_compute {result : Except ServiceError α} {f : α → Service β}
    (hf : ∀ a, result = .ok a → Makes R (f a) s) : Makes R ((compute result).bind f) s := by
  refine ensures_bind (ensures_compute ?_)
  cases result with
  | ok a => exact hf a rfl
  | error e => exact Relation.ReflTransGen.refl

/-- A method that begins with one write. -/
theorem makes_write {act : Db → α × Db} {f : α → Service β} (h : Effect R s (act s).2)
    (hf : Makes R (f (act s).1) (act s).2) : Makes R ((query act).bind f) s := by
  refine ensures_bind (ensures_perform ?_ False.elim)
  exact ensures_mono hf fun _ _ hu => (effects_one h).trans hu

theorem makes_done (a : α) : Makes R (Prog.done a : Service α) s := Relation.ReflTransGen.refl

theorem readMatch {matchId : String} {f : LoadedMatch → Service β}
    (hf : ∀ m, s.matchRows.findOne matchId = some m.toMatch →
      (m.participants = s.participants.find fun p => p.matchId = matchId) → Makes R (f m) s) :
    Makes R ((getMatchById matchId).bind f) s :=
  makes_read (P := fun m : LoadedMatch => s.matchRows.findOne matchId = some m.toMatch ∧
    m.participants = s.participants.find fun p => p.matchId = matchId)
    (ensures_mono (getMatchById_ensures matchId s) fun _ _ ht =>
      ⟨ht.1, fun m hm => by rw [hm] at ht; exact ht.2⟩)
    fun m hm => hf m hm.1 hm.2

theorem readTournament {tournamentId : String} {f : LoadedTournament → Service β}
    (hf : ∀ t, s.tournaments.findOne tournamentId = some t.toTournament →
      (t.registrations = s.registrations.find fun r => r.tournamentId = tournamentId) →
      Makes R (f t) s) :
    Makes R ((getTournamentById tournamentId).bind f) s :=
  makes_read (P := fun t : LoadedTournament => s.tournaments.findOne tournamentId =
    some t.toTournament ∧
      t.registrations = s.registrations.find fun r => r.tournamentId = tournamentId)
    (ensures_mono (getTournamentById_ensures tournamentId s) fun _ _ ht =>
      ⟨ht.1, fun m hm => by rw [hm] at ht; exact ht.2⟩)
    fun m hm => hf m hm.1 hm.2

theorem readEscrow {source : SourceId} {f : EscrowAccount → Service β}
    (hf : ∀ escrow, s.escrows.findOne source = some escrow → Makes R (f escrow) s) :
    Makes R ((getEscrowBySource source).bind f) s :=
  makes_read (ensures_mono (getEscrowBySource_ensures source s) fun _ _ ht =>
    ⟨ht.1, fun m hm => by rw [hm] at ht; exact ht.2⟩) hf

end Combinators

/-! ### Wallets -/

section Calls

variable {R : Prop} {s : Db}

theorem createWallet_makes {request : CreatePlayerWalletRequest} (hid : request.playerId ≠ "") :
    Makes R (createWallet request) s := by
  refine ensures_mono (createWallet_ensures request s) fun r t ht => ?_
  cases r with
  | ok wallet =>
      rcases ht with ⟨hnew, hplayer, -, havailable, hlocked, -, -, -, -, rfl⟩
      rw [← hplayer] at hnew hid
      exact effects_one (.newWallet wallet hnew hid havailable hlocked)
  | error e =>
      obtain rfl : t = s := ht
      exact Relation.ReflTransGen.refl

theorem deposit_makes (request : DepositRequest) : Makes R (deposit request) s := by
  refine moveFunds_calm (fun _ => Relation.ReflTransGen.refl) fun wallet hfind _ => ?_
  have hkey : wallet.playerId = request.playerId := Table.key_of_findOne hfind
  refine effects_one (.funds ⟨_, _, _, Shifted.save (hkey ▸ hfind) (by rfl), ?_, rfl⟩)
  rw [netDeposits_append]
  change netDeposits s.walletTxs + request.amount = netDeposits s.walletTxs +
    (wallet.availableBalance + request.amount - wallet.availableBalance)
  omega

/-- A withdrawal that does not go through moves no money. -/
theorem withdrawalRefused_fundsMove {t : Db} {wallet : PlayerWallet}
    (hfind : s.wallets.findOne wallet.playerId = some wallet)
    (h : WithdrawalRefused False s t wallet) : FundsMove s t := by
  rcases h with ⟨current, hsame, u, hu, ht⟩
  -- Either nothing was saved, or only the limits of the wallet were.
  have hshift : ∃ delta, Shifted s.wallets u.wallets delta ∧ delta = 0 := by
    rcases hu with rfl | rfl
    · exact ⟨0, Shifted.refl _, rfl⟩
    · refine ⟨_, Shifted.save (hsame.1 ▸ hfind) hsame.2.2, ?_⟩
      rw [hsame.2.1]
      omega
  rcases hshift with ⟨delta, hshift, rfl⟩
  have htxs : u.walletTxs = s.walletTxs := by rcases hu with rfl | rfl <;> rfl
  have hrest : u = { s with wallets := u.wallets, walletTxs := u.walletTxs } := by
    rcases hu with rfl | rfl <;> rfl
  -- The row of a withdrawal that failed counts for nothing.
  rcases ht with rfl | ⟨tx, htype, hstatus, rfl⟩
  · exact ⟨_, _, 0, hshift, by rw [htxs, Int.add_zero], hrest⟩
  · refine ⟨u.wallets, s.walletTxs ++ [tx], 0, hshift, ?_, ?_⟩
    · have hzero : tx.netAmount = 0 := by
        unfold WalletTransaction.netAmount
        rw [htype, if_neg (by decide), if_neg fun h => hstatus h.2]
      rw [netDeposits_append, hzero]
    · rw [hrest]

theorem withdraw_makes (request : WithdrawRequest) : Makes R (withdraw request) s := by
  refine ensures_mono (withdraw_ensures request s) fun r t ht => ?_
  cases r with
  | error e =>
      -- A refusal may leave a row, but moves no money.
      rcases ht with rfl | ⟨wallet, hfind, hrefused⟩
      · exact Relation.ReflTransGen.refl
      · have hkey : wallet.playerId = request.playerId := Table.key_of_findOne hfind
        exact effects_one (.funds (withdrawalRefused_fundsMove (hkey ▸ hfind) hrefused))
  | ok tx =>
      -- The balance falls by the amount of the completed row.
      rcases ht with ⟨wallet, paid, hfind, hplayer, havailable, hlocked, htype,
        hstatus, hamount, rfl⟩
      have hkey : wallet.playerId = request.playerId := Table.key_of_findOne hfind
      refine effects_one (.funds ⟨_, _, _,
        Shifted.save (w := paid) (hplayer.trans hkey ▸ hfind) hlocked, ?_, rfl⟩)
      have hnet : tx.netAmount = -request.amount := by
        unfold WalletTransaction.netAmount
        rw [htype, if_neg (by decide), if_pos ⟨rfl, hstatus⟩, hamount]
      rw [netDeposits_append, hnet, havailable]
      omega

/-! ### Creating and entering -/

theorem createMatch_makes (request : CreateMatchRequest) : Makes R (createMatch request) s := by
  refine makes_require fun hvalid => makes_compute fun _ _ => ?_
  refine ensures_bind (createEscrow_calm (fun _ _ _ => Relation.ReflTransGen.refl) fun hnew => ?_)
  refine ensures_bind (ensures_perform ?_ False.elim)
  exact effects_one (.newMatch (newMatch request) _ rfl hnew (entryFee_pos_of_valid hvalid))

theorem createTournament_makes (request : CreateTournamentRequest) :
    Makes R (createTournament request) s := by
  refine makes_require fun hvalid => makes_require fun _ => ?_
  refine ensures_bind (createEscrow_calm (fun _ _ _ => Relation.ReflTransGen.refl) fun hnew => ?_)
  refine ensures_bind (ensures_perform ?_ False.elim)
  exact effects_one (.newTournament (newTournament request) _ rfl hnew
    (entryFee_pos_of_valid hvalid) rfl)

theorem Ledger.locked_nonneg (hs : Ledger s) : ∀ w ∈ s.wallets.rows, 0 ≤ w.lockedBalance :=
  fun w hw => le_of_eq (hs.wallets w hw).1.symm

theorem not_over_of_joinable {m : LoadedMatch} (h : m.isJoinable = true) :
    m.toMatch.over = false := by
  unfold LoadedMatch.isJoinable at h
  unfold Match.over
  rw [Bool.and_eq_true] at h
  cases hstatus : m.status <;> rw [hstatus] at h <;>
    first | rfl | exact absurd h.1 (by decide)

theorem joinMatch_makes (hs : Ledger s) (request : JoinMatchRequest) :
    Makes R (joinMatch request) s := by
  refine makes_read (checkJoin_ensures request s) fun m hm => ?_
  rcases hm with ⟨hfind, -, hjoinable, -⟩
  have hkey : m.matchId = request.matchId := Table.key_of_findOne hfind
  rw [← hkey] at hfind
  have hfee := (hs.matchRows _ (Table.mem_of_findOne hfind)).1
  refine ensures_mono (enter_calm hs.locked_nonneg fun _ _ => ⟨_, rfl⟩) fun r t ht => ?_
  cases r with
  -- A join that fails moves funds at most.
  | error e => exact effects_one (.funds ht.1.fundsMove)
  | ok p =>
      rcases ht with ⟨wallet, escrow, hpaid, rfl⟩
      refine (effects_one (.join _ wallet escrow (newParticipant m request wallet)
        hpaid hfee rfl rfl
        rfl ⟨m.toMatch, hfind⟩)).tail
          (.matchRow m.toMatch (afterJoin m) hfind rfl fun hover => ?_)
      rw [not_over_of_joinable hjoinable] at hover
      exact nomatch hover

theorem registerPlayer_makes (hs : Ledger s) (request : RegisterPlayerRequest) :
    Makes R (registerPlayer request) s := by
  refine makes_read (checkRegistration_ensures request s) fun x hx => ?_
  rcases hx with ⟨hfind, -, hopen, -⟩
  have hkey : x.tournamentId = request.tournamentId := Table.key_of_findOne hfind
  rw [← hkey] at hfind
  have hfee := (hs.tournaments _ (Table.mem_of_findOne hfind)).1
  have hstatus : x.status = .REGISTRATION_OPEN := by
    unfold LoadedTournament.isRegistrationOpen at hopen
    simp only [Bool.and_eq_true, decide_eq_true_eq] at hopen
    exact hopen.1.1.1
  refine ensures_mono (enter_calm hs.locked_nonneg fun _ _ => ⟨_, rfl⟩) fun r t ht => ?_
  cases r with
  -- The entry failed before the registration, so only the wallet was touched.
  | error e => exact effects_one (.funds ht.1.fundsMove)
  | ok p =>
      -- Two effects: the registration, and the pool of the tournament's row.
      rcases ht with ⟨wallet, escrow, hpaid, rfl⟩
      refine (effects_one (.register _ wallet escrow (newRegistration x request wallet)
        hpaid hfee rfl
        rfl rfl ⟨x.toTournament, hfind, hstatus⟩)).tail
          (.tournamentRow x.toTournament (afterRegistration x) hfind rfl fun h => ?_)
      exact nomatch hstatus.symm.trans h

/-- Opening and closing registration change the status and nothing else. -/
theorem setStatus_makes {tournamentId : String} {allowed : LoadedTournament → Bool}
    {refusal : ServiceError} {status : TournamentStatus} (hstatus : status ≠ .BRACKET_GENERATED) :
    Makes R ((getTournamentById tournamentId).bind fun t => (require (allowed t) refusal).bind
      fun _ => (tournamentRepository.save { t.toTournament with status := status }).bind fun _ =>
        Prog.done { t.toTournament with status := status }) s := by
  refine readTournament fun t hfind _ => makes_require fun _ => ?_
  have hkey : t.tournamentId = tournamentId := Table.key_of_findOne hfind
  refine makes_write (.tournamentRow t.toTournament _ (hkey ▸ hfind) rfl fun h => ?_)
    (makes_done _)
  exact absurd h hstatus

theorem openRegistration_makes (tournamentId : String) :
    Makes R (openRegistration tournamentId) s := by
  unfold openRegistration
  exact setStatus_makes (by decide)

theorem closeRegistration_makes (tournamentId : String) :
    Makes R (closeRegistration tournamentId) s := by
  unfold closeRegistration
  exact setStatus_makes (by decide)

/-! ### Rows that change status -/

/-- Rewriting participants is an effect when no live match loses a player. -/
theorem updateParticipants_effect {p : MatchParticipant → Bool}
    {f : MatchParticipant → MatchParticipant} {hf : ∀ v, (f v).key = v.key}
    (h : ∀ v, p v = true → (f v).status = v.status ∨ (f v).status = .PLAYING ∨
      ∃ m, s.matchRows.findOne v.matchId = some m ∧ m.over = true) :
    Effect R s { s with participants := s.participants.update p f hf } := by
  refine .participants _ (Table.map_update fun v _ _ => hf v) fun v' hv' => ?_
  rcases Table.mem_update.mp hv' with ⟨v, hv, rfl⟩
  refine ⟨v, hv, ?_⟩
  by_cases hp : p v = true
  · rw [if_pos hp]
    have hid : (f v).matchId = v.matchId := congrArg Prod.fst (hf v)
    exact ⟨hf v, hid ▸ h v hp⟩
  · rw [if_neg hp]
    exact ⟨rfl, Or.inl rfl⟩

/-- Rewriting participants without touching key or status. -/
theorem sameParticipants_effect {ps : Table MatchParticipant.key}
    (h : (ps.rows.map fun p => (p.key, p.status)) =
      s.participants.rows.map fun p => (p.key, p.status)) :
    Effect R s { s with participants := ps } := by
  refine .participants ps ?_ fun p' hp' => ?_
  · have hfst := congrArg (List.map Prod.fst) h
    rwa [List.map_map, List.map_map] at hfst
  · have hmem : (p'.key, p'.status) ∈ ps.rows.map fun p => (p.key, p.status) :=
      List.mem_map_of_mem (f := fun p : MatchParticipant => (p.key, p.status)) hp'
    rw [h] at hmem
    rcases List.mem_map.mp hmem with ⟨p, hp, heq⟩
    simp only [Prod.mk.injEq] at heq
    exact ⟨p, hp, heq.1.symm, Or.inl heq.2.symm⟩

theorem startMatch_makes (matchId : String) (now : Int) :
    Makes R (startMatch matchId now) s := by
  refine readMatch fun m hfind _ => makes_require fun hstart => readEscrow fun escrow hescrow => ?_
  have hkey : m.matchId = matchId := Table.key_of_findOne hfind
  have hescrowKey : escrow.escrowId = matchSource matchId := Table.key_of_findOne hescrow
  -- A match that can start is ready, hence not over.
  have hready : m.status = .READY := by
    unfold LoadedMatch.canStart at hstart
    simp only [Bool.and_eq_true, decide_eq_true_eq] at hstart
    exact hstart.1
  refine ensures_bind (ensures_mono (lockEscrow_ensures _ s) fun r t ht => ?_)
  cases r with
  | error e =>
      obtain rfl : t = s := ht.1
      exact Relation.ReflTransGen.refl
  | ok _ =>
      -- Lock the escrow, mark the participants, and save the match.
      rcases ht with ⟨found, hfound, -, rfl⟩
      have hfoundKey := Table.key_of_findOne hfound
      have hlock : Effect R s (s.withEscrow { found with status := .LOCKED }) :=
        .escrowStatus found .LOCKED (hfoundKey ▸ hfound)
      refine ensures_mono ?_ fun _ _ hu => (effects_one hlock).trans hu
      refine makes_write (updateParticipants_effect fun _ _ => Or.inr (Or.inl rfl)) ?_
      refine makes_write (.matchRow m.toMatch _ (hkey ▸ hfind) rfl fun hover => ?_) (makes_done _)
      unfold Match.over at hover
      rw [hready] at hover
      exact absurd hover (by decide)

/-! ### Payouts -/

/-- Remembering a prize touches neither the key nor the status of a row. -/
def MarksOnly (mark : PrizeCalculation → Service Unit) : Prop :=
  ∀ dist t, (mark dist).Ensures False t fun _ u => ∃ ps rs,
    u = { t with participants := ps, registrations := rs } ∧
    (ps.rows.map fun p => (p.key, p.status)) = t.participants.rows.map
      (fun p => (p.key, p.status)) ∧
    (rs.rows.map fun r => (r.key, r.status)) =
      t.registrations.rows.map fun r => (r.key, r.status)

theorem markParticipant_marksOnly (matchId : String) : MarksOnly (markParticipant matchId) := by
  intro dist t
  refine ensures_perform ⟨_, t.registrations, rfl, ?_, rfl⟩ False.elim
  exact Table.map_update fun _ _ _ => rfl

theorem markRegistration_marksOnly (tournamentId : String) :
    MarksOnly (markRegistration tournamentId) := by
  intro dist t
  refine ensures_perform ⟨t.participants, _, rfl, rfl, ?_⟩ False.elim
  exact Table.map_update fun _ _ _ => rfl

/-- In the middle of the credits of a payout: the escrow is settled, and the
    wallets have received everything but what is still to be credited. -/
def Paying (s : Db) (escrow : EscrowAccount) (total fee : Int) (txs : List EscrowTransaction)
    (rest : List PrizeCalculation) (t : Db) : Prop :=
  ∃ wallets walletTxs credited ps rs prizes,
    -- The release is booked, and marks and credits have been written since.
    t = { s with
      escrows := s.escrows.save (escrow.afterRelease total fee)
      escrowTxs := s.escrowTxs ++ txs
      wallets := wallets
      walletTxs := walletTxs
      credited := credited
      participants := ps
      registrations := rs
      prizes := prizes } ∧
    Shifted s.wallets wallets (total - (rest.map PrizeCalculation.amount).sum) ∧
    netDeposits walletTxs = netDeposits s.walletTxs ∧
    (ps.rows.map fun p => (p.key, p.status)) = s.participants.rows.map
      (fun p => (p.key, p.status)) ∧
    (rs.rows.map fun r => (r.key, r.status)) =
      s.registrations.rows.map fun r => (r.key, r.status)

/-- One credit. It cannot fail, since the player has a wallet. -/
theorem Paying.credit {escrow : EscrowAccount} {total fee : Int} {txs : List EscrowTransaction}
    {dist : PrizeCalculation} {rest : List PrizeCalculation} {t : Db} {source : SourceId}
    {mark : PrizeCalculation → Service Unit} (hmark : MarksOnly mark)
    (hknown : ∃ w, s.wallets.findOne dist.playerId = some w)
    (h : Paying s escrow total fee txs (dist :: rest) t) :
    (creditOne source mark dist).Ensures False t fun _ u =>
      Paying s escrow total fee txs rest u := by
  rcases h with ⟨wallets, walletTxs, credited, ps, rs, prizes, rfl, hshift, hnet, hps, hrs⟩
  refine ensures_bind (ensures_mono (moveFunds_ensures ..) fun r u hu => ?_)
  cases r with
  | error e =>
      rcases hu.2 with hfalse | hnone | ⟨_, -, hno⟩
      · exact hfalse.elim
      · -- The credits so far have removed no wallet.
        rcases hknown with ⟨w, hw⟩
        have hsome := hshift.isSome dist.playerId
        rw [hw] at hsome
        rw [show wallets.findOne dist.playerId = none from hnone] at hsome
        exact nomatch hsome
      · exact nomatch hno
  | ok tx =>
      rcases hu with ⟨w, hw, -, -, rfl⟩
      have hkey : w.playerId = dist.playerId := Table.key_of_findOne hw
      refine ensures_mono (hmark dist _) fun _ v hv => ?_
      rcases hv with ⟨ps', rs', rfl, hps', hrs'⟩
      refine ⟨_, _, _, ps', rs', prizes, rfl, ?_, ?_, hps'.trans hps, hrs'.trans hrs⟩
      · -- The wallets are up by one credit more, and one payment less is due.
        have hfind : wallets.findOne w.playerId = some w := hkey ▸ hw
        have hone := Shifted.save (w :=
          { w with
            availableBalance := w.availableBalance + dist.amount
            totalWinnings := w.totalWinnings + dist.amount }) hfind rfl
        have hboth := hshift.trans hone
        have hsum : total - ((dist :: rest).map PrizeCalculation.amount).sum +
            (w.availableBalance + dist.amount - w.availableBalance) =
              total - (rest.map PrizeCalculation.amount).sum := by
          rw [List.map_cons, List.sum_cons]
          omega
        rwa [hsum] at hboth
      · exact (netDeposits_append _ _).trans ((Int.add_zero _).trans hnet)

/-- A payout to players who have wallets is a chain of effects, and leaves the
    rows of matches and tournaments to its caller. -/
theorem distribute_makes {payout : Payout} (hmark : MarksOnly payout.mark)
    (hknown : ∀ amount dists, payout.calculate amount = .ok dists →
      ∀ d ∈ dists, ∃ w, s.wallets.findOne d.playerId = some w) :
    (distribute payout).Ensures False s fun _ t => Effects R s t ∧ t.matchRows = s.matchRows ∧
      t.tournaments = s.tournaments := by
  -- The invariant of the credits: what is still due has a wallet to go to.
  have hends := distribute_ensures (C := False)
    (J := fun rest t => (∀ d ∈ rest, ∃ w, s.wallets.findOne d.playerId = some w) ∧
      ∃ escrow total fee txs, s.escrows.findOne escrow.escrowId = some escrow ∧
        (∀ tx ∈ txs, tx.type ≠ .DEPOSIT) ∧ Paying s escrow total fee txs rest t) payout s ?_ ?_ ?_
  · refine ensures_mono hends fun r t ht => ?_
    cases r with
    | error e =>
        rcases ht with ⟨prizes, rfl, -⟩ | ⟨hfalse, -⟩ | ⟨hfalse, -⟩
        · exact ⟨effects_one (.prizes prizes), rfl, rfl⟩
        · exact hfalse.elim
        · exact hfalse.elim
    | ok record =>
        rcases ht with ⟨-, escrow, total, fee, txs, hfind, htxs, wallets, walletTxs,
          credited, ps, rs,
          prizes, rfl, hshift, hnet, hps, hrs⟩
        rw [List.map_nil, List.sum_nil, Int.sub_zero] at hshift
        refine ⟨?_, rfl, rfl⟩
        -- With nothing left to pay, the release and all its credits are one payout.
        have hpay : Effect R s { s with
            escrows := s.escrows.save (escrow.afterRelease total fee)
            escrowTxs := s.escrowTxs ++ txs
            wallets := wallets
            walletTxs := walletTxs
            credited := credited } :=
          .payout escrow total fee txs wallets walletTxs credited hfind htxs hshift hnet
        have hmarks := sameParticipants_effect (R := R) (s := { s with
            escrows := s.escrows.save (escrow.afterRelease total fee)
            escrowTxs := s.escrowTxs ++ txs
            wallets := wallets
            walletTxs := walletTxs
            credited := credited }) hps
        exact (((effects_one hpay).tail hmarks).tail (.registrations rs hrs)).tail (.prizes prizes)
  · -- Before the first credit the whole total is due.
    intro escrow fee dists hready
    have hkey : escrow.escrowId = payout.source := Table.key_of_findOne hready.find
    refine ⟨hknown _ dists hready.calculated, escrow, (paymentsOf payout.source dists).total, fee,
      _, hkey ▸ hready.find, releaseTxs_type _ fee, s.wallets, s.walletTxs, s.credited,
      s.participants, s.registrations, s.prizes, rfl, ?_, rfl, rfl, rfl⟩
    rw [paymentsOf_total, Int.sub_self]
    exact Shifted.refl _
  · -- Each credit keeps the invariant.
    rintro dist rest t ⟨hplayers, escrow, total, fee, txs, hfind, htxs, hpaying⟩
    refine ensures_mono (hpaying.credit hmark (hplayers dist (List.mem_cons_self ..)))
      fun _ u hu => ?_
    exact ⟨fun d hd => hplayers d (List.mem_cons_of_mem _ hd), escrow, total, fee, txs, hfind, htxs,
      hu⟩
  · -- The rows of the prizes are no part of it.
    rintro rest t prizes ⟨hplayers, escrow, total, fee, txs, hfind, htxs, wallets, walletTxs,
      credited, ps, rs, _, rfl, hrest⟩
    exact ⟨hplayers, escrow, total, fee, txs, hfind, htxs, wallets, walletTxs, credited, ps, rs,
      prizes, rfl, hrest⟩

theorem finishParticipant_makes {matchId playerId : String} {placement : Nat} {m : Match}
    (hfind : s.matchRows.findOne matchId = some m) (hover : m.over = true) :
    (finishParticipant matchId playerId placement).Ensures False s fun _ t =>
      Effects R s t ∧ t.matchRows = s.matchRows ∧ t.wallets = s.wallets := by
  refine ensures_perform ⟨effects_one (updateParticipants_effect fun v hv => ?_), rfl, rfl⟩
    False.elim
  have hid : v.matchId = matchId := congrArg Prod.fst (of_decide_eq_true hv)
  exact Or.inr (Or.inr ⟨m, hid ▸ hfind, hover⟩)

/-- Writing placements of a match that is over, one after the other. -/
theorem finishAll_makes {β : Type} {matchId : String} {m : Match} {xs : List β}
    {playerOf : β → String} {placeOf : β → Nat}
    (hfind : s.matchRows.findOne matchId = some m) (hover : m.over = true) :
    (each xs fun x => finishParticipant matchId (playerOf x) (placeOf x)).Ensures False s
      fun _ t => Effects R s t ∧ t.matchRows = s.matchRows ∧ t.wallets = s.wallets := by
  refine ensures_each ⟨Relation.ReflTransGen.refl, rfl, rfl⟩ fun x _ t ht => ?_
  refine ensures_mono (finishParticipant_makes (R := R) (s := t) (ht.2.1 ▸ hfind) hover)
    fun _ u hu => ?_
  exact ⟨ht.1.trans hu.1, hu.2.1.trans ht.2.1, hu.2.2.trans ht.2.2⟩

theorem submitResult_makes (hs : Ledger s) (request : SubmitResultRequest) :
    Makes R (submitResult request) s := by
  refine readMatch fun m hfind _ => makes_require fun _ => ?_
  have hkey : m.matchId = request.matchId := Table.key_of_findOne hfind
  rw [← hkey] at hfind
  refine makes_read (P := fun ps => ∀ p ∈ ps, p ∈ s.participants.rows)
    (ensures_perform ⟨rfl, fun ps h => ?_⟩ False.elim) fun ps hps => makes_compute fun _ _ => ?_
  · rw [← Except.ok.inj h]
    exact fun p hp => (List.mem_filter.mp hp).1
  have hover : (afterResult m.toMatch request).over = true := rfl
  refine makes_write (.matchRow m.toMatch (afterResult m.toMatch request) hfind rfl
    fun _ => hover) ?_
  -- From here on the match is over.
  have hrow : (s.matchRows.save (afterResult m.toMatch request)).findOne m.matchId =
      some (afterResult m.toMatch request) := Table.findOne_save_self _ _
  refine makes_then (P := fun _ t => t.matchRows = s.matchRows.save
    (afterResult m.toMatch request) ∧
    t.wallets = s.wallets) (ensures_mono (finishAll_makes hrow hover) fun _ t ht =>
      ⟨ht.1, fun _ _ => ht.2⟩) fun _ t _ ht => ?_
  refine makes_then (P := fun _ u => u.matchRows = s.matchRows.save
    (afterResult m.toMatch request) ∧
    u.wallets = s.wallets) (ensures_mono (finishAll_makes (ht.1 ▸ hrow) hover) fun _ u hu =>
      ⟨hu.1, fun _ _ => ⟨hu.2.1.trans ht.1, hu.2.2.trans ht.2⟩⟩) fun _ u _ hu => ?_
  refine makes_then (P := fun _ v => v.matchRows = u.matchRows)
    (ensures_mono (distribute_makes (markParticipant_marksOnly _)
      fun amount dists hdists d hd => ?_)
      fun _ v hv => ⟨hv.1, fun _ _ => hv.2.1⟩) fun _ v _ hv => ?_
  · rcases matchPayments_recipient (m := afterResult m.toMatch request) hdists d hd
      with ⟨p, hp, hplayer⟩
    rw [hu.2, ← hplayer]
    exact (hs.participants p (hps p hp)).1
  · refine makes_write (.matchRow (afterResult m.toMatch request) _ ?_ rfl fun _ => rfl)
      (makes_done _)
    rw [hv, hu.1]
    exact hrow

/-! ### Cancelling -/

/-- With nothing locked anywhere, nothing can be unlocked. -/
theorem unlockFunds_fails (hs : Ledger s) {request : LockFundsRequest}
    (hamount : 0 < request.amount) :
    (unlockFunds request).Ensures False s fun r t => (∃ e, r = .error e) ∧ t = s := by
  refine moveFunds_calm (fun e => ⟨⟨e, rfl⟩, rfl⟩) fun wallet hfind hcovered => ?_
  have hlocked := (hs.wallets wallet (Table.mem_of_findOne hfind)).1
  have hle := of_decide_eq_true hcovered
  omega

theorem covers_all (source : SourceId) :
    s.escrowTxs.filter (RefundEscrowRequest.covers { escrowId := source }) =
      s.depositRows source := by
  unfold Db.depositRows
  refine List.filter_congr fun tx _ => ?_
  simp only [RefundEscrowRequest.covers, Bool.and_true]

/-- What both cancellations do from the refund on: if the escrow pays back, the
    entrants are looked up, and the first of them cannot be unlocked. -/
theorem refundThenUnlock_calm {α β : Type} {source : SourceId} {escrow : EscrowAccount}
    {read : Service (List β)} {unlock : β → Service Unit} {close : Service α}
    (hfind : s.escrows.findOne source = some escrow)
    (hread : ∀ t, Refunded s t source → read.Ensures False t fun r u => u = t ∧
      ∃ x xs, r = .ok (x :: xs))
    (hunlock : ∀ t x, Refunded s t source →
      (unlock x).Ensures False t fun r u => (∃ e, r = .error e) ∧ u = t) :
    ((refundEscrow { escrowId := escrow.escrowId }).bind fun _ => read.bind fun xs =>
      (each xs unlock).bind fun _ => close).Ensures False s fun r t => (∃ e, r = .error e) ∧
        (t = s ∧ ¬s.refundable source ∨ s.refundable source ∧ Refunded s t source) := by
  have hkey : escrow.escrowId = source := Table.key_of_findOne hfind
  rw [hkey]
  refine ensures_bind (ensures_mono (refundEscrow_ensures _ s) fun r t ht => ?_)
  cases r with
  | error e =>
      -- A refused refund writes nothing, so the escrow cannot be refunded.
      rcases ht with ⟨rfl | ⟨hfalse, -⟩, hwhy⟩
      · refine ⟨⟨e, rfl⟩, Or.inl ⟨rfl, ?_⟩⟩
        rintro ⟨found, hfound, hcan, hrows⟩
        rcases hwhy with hfalse | hnone | ⟨other, hother, hno | hempty⟩
        · exact hfalse
        · exact nomatch hnone.symm.trans hfind
        · rw [Option.some.inj (hfound.symm.trans hother), hno] at hcan
          exact nomatch hcan
        · exact hrows (covers_all source ▸ hempty)
      · exact hfalse.elim
  | ok txs =>
      rcases ht with ⟨found, deposits, hfound, rfl, hcan, hrows, rfl⟩
      rw [covers_all] at hrows ⊢
      have hrefunded : Refunded s _ source :=
        ⟨found, refundTxs { escrowId := source } (s.depositRows source), hfound, hrows,
          refundTxs_type _ _, rfl⟩
      have hrefundable : s.refundable source := ⟨found, hfound, hcan, hrows⟩
      -- The refund is through. The first entrant cannot be unlocked, and the rest is
      -- never reached.
      refine ensures_bind (ensures_mono (hread _ hrefunded) fun r u hu => ?_)
      rcases hu with ⟨rfl, x, xs, rfl⟩
      refine ensures_bind (ensures_bind (ensures_mono (hunlock _ x hrefunded) fun r v hv => ?_))
      rcases hv with ⟨⟨e, rfl⟩, rfl⟩
      exact ⟨⟨e, rfl⟩, Or.inr ⟨hrefundable, hrefunded⟩⟩

theorem refunded_ledger {t : Db} {source : SourceId} (hs : Ledger s) (h : Refunded s t source) :
    Ledger t :=
  effect_ledger (R := True) (.refund source trivial h) hs

/-- A deposit is only refunded where someone entered. -/
theorem entrant_of_refunded {t : Db} {source : SourceId} (hs : Ledger s)
    (h : Refunded s t source) : s.hasEntrant source := by
  rcases h with ⟨_, _, -, hrows, -, -⟩
  rcases List.exists_mem_of_ne_nil _ hrows with ⟨tx, htx⟩
  simp only [Db.depositRows, List.mem_filter, Bool.and_eq_true, decide_eq_true_eq] at htx
  exact htx.2.1 ▸ (hs.deposits tx htx.1 htx.2.2).2

theorem exists_ok_cons {β : Type} {l : List β} {x : β} (h : x ∈ l) :
    ∃ y ys, (Except.ok l : Except ServiceError (List β)) = .ok (y :: ys) := by
  cases l with
  | nil => exact absurd h List.not_mem_nil
  | cons y ys => exact ⟨y, ys, rfl⟩

/-- After a calm run no match can be cancelled: either the escrow is not
    refunded, or it is and the players are not. -/
theorem cancelMatch_calm (hs : Ledger s) (matchId : String) (now : Int) :
    (cancelMatch matchId now).Ensures False s fun r t => (∃ e, r = .error e) ∧
      (t = s ∧ ¬(Call.cancelMatch matchId now).refunds s ∨
        (Call.cancelMatch matchId now).refunds s ∧ Refunded s t (matchSource matchId)) := by
  refine ensures_bind (getMatchById_calm (fun e hnone => ?_) fun m hfind _ => ?_)
  · refine ⟨⟨e, rfl⟩, Or.inl ⟨rfl, ?_⟩⟩
    rintro ⟨m, hm, -⟩
    exact nomatch hnone.symm.trans hm
  have hkey : m.matchId = matchId := Table.key_of_findOne hfind
  have hrow := hs.matchRows _ (Table.mem_of_findOne hfind)
  refine ensures_bind (ensures_require (fun hlive => ?_) (fun hover => ?_))
  swap
  · refine ⟨⟨_, rfl⟩, Or.inl ⟨rfl, ?_⟩⟩
    rintro ⟨m', hm', hlive, -⟩
    rw [Option.some.inj (hm'.symm.trans hfind)] at hlive
    have hover' : m.toMatch.over = true := by
      rwa [Bool.not_eq_false'] at hover
    exact nomatch hlive.symm.trans hover'
  have hlive' : m.toMatch.over = false := by rwa [Bool.not_eq_true'] at hlive
  refine ensures_bind (getEscrowBySource_calm (fun _ hnone => ?_) fun escrow hr => ?_)
  · rcases hrow.2 with ⟨escrow, he⟩
    rw [show m.source = matchSource matchId from congrArg matchSource hkey, hnone] at he
    exact nomatch he
  refine ensures_mono (refundThenUnlock_calm hr (fun v hv => ?_) (fun v p hv => ?_))
    fun r v hv => ⟨hv.1, ?_⟩
  · -- Whoever paid a deposit is still in the match.
    rcases entrant_of_refunded hs hv with ⟨p, hp, hid⟩
    rcases (hs.participants p hp).2 with ⟨row, hrow', hstatus⟩
    rw [hid, hfind] at hrow'
    have hactive := hstatus (Option.some.inj hrow' ▸ hlive')
    rcases hv with ⟨_, txs, -, -, -, rfl⟩
    refine ensures_perform ⟨rfl, ?_⟩ False.elim
    refine exists_ok_cons (List.mem_filter.mpr ⟨hp, ?_⟩)
    rw [Bool.and_eq_true, decide_eq_true_eq, hkey]
    refine ⟨hid, ?_⟩
    rcases hactive with h | h <;> rw [h] <;> rfl
  · refine ensures_bind (ensures_mono (unlockFunds_fails (refunded_ledger hs hv) hrow.1)
      fun r w hw => ?_)
    rcases hw with ⟨⟨e, rfl⟩, rfl⟩
    exact ⟨⟨e, rfl⟩, rfl⟩
  · rcases hv.2 with ⟨rfl, hno⟩ | ⟨hyes, hrefunded⟩
    · refine Or.inl ⟨rfl, ?_⟩
      rintro ⟨_, -, -, hyes⟩
      exact hno hyes
    · exact Or.inr ⟨⟨m.toMatch, hfind, hlive', hyes⟩, hrefunded⟩

/-- After a calm run no tournament can be cancelled either. -/
theorem cancelTournament_calm (hs : Ledger s) (tournamentId : String) (now : Int) :
    (cancelTournament tournamentId now).Ensures False s fun r t => (∃ e, r = .error e) ∧
      (t = s ∧ ¬(Call.cancelTournament tournamentId now).refunds s ∨
        (Call.cancelTournament tournamentId now).refunds s ∧
          Refunded s t (tournamentSource tournamentId)) := by
  refine ensures_bind (getTournamentById_calm (fun e hnone => ?_) fun x hfind _ => ?_)
  · refine ⟨⟨e, rfl⟩, Or.inl ⟨rfl, ?_⟩⟩
    rintro ⟨x, hx, -⟩
    exact nomatch hnone.symm.trans hx
  have hkey : x.tournamentId = tournamentId := Table.key_of_findOne hfind
  have hsource : x.source = tournamentSource tournamentId := congrArg tournamentSource hkey
  have hrow := hs.tournaments _ (Table.mem_of_findOne hfind)
  refine ensures_bind (ensures_require (fun hlive => ?_) (fun hcompleted => ?_))
  swap
  · refine ⟨⟨_, rfl⟩, Or.inl ⟨rfl, ?_⟩⟩
    rintro ⟨x', hx', hlive, -⟩
    rw [Option.some.inj (hx'.symm.trans hfind)] at hlive
    exact of_decide_eq_false hcompleted hlive
  have hlive' : x.status ≠ .COMPLETED := of_decide_eq_true hlive
  refine ensures_bind (getEscrowBySource_calm (fun _ hnone => ?_) fun escrow hr => ?_)
  · rcases hrow.2.1 with ⟨escrow, he⟩
    exact nomatch hnone.symm.trans he
  rw [← hsource]
  refine ensures_mono (refundThenUnlock_calm hr (fun v hv => ?_) (fun v r hv => ?_))
    fun r v hv => ⟨hv.1, ?_⟩
  · -- Whoever paid a deposit is still registered.
    rcases entrant_of_refunded hs hv with ⟨r, hmem, hid⟩
    have hconfirmed := (hs.registrations r hmem).1
    rcases hv with ⟨_, txs, -, -, -, rfl⟩
    refine ensures_perform ⟨rfl, ?_⟩ False.elim
    refine exists_ok_cons (List.mem_filter.mpr ⟨hmem, ?_⟩)
    rw [Bool.and_eq_true, decide_eq_true_eq, decide_eq_true_eq]
    exact ⟨hid, hconfirmed⟩
  · refine ensures_bind (ensures_mono (unlockFunds_fails (refunded_ledger hs hv) hrow.1)
      fun r w hw => ?_)
    rcases hw with ⟨⟨e, rfl⟩, rfl⟩
    exact ⟨⟨e, rfl⟩, rfl⟩
  · rcases hv.2 with ⟨rfl, hno⟩ | ⟨hyes, hrefunded⟩
    · refine Or.inl ⟨rfl, ?_⟩
      rintro ⟨_, -, -, hyes⟩
      exact hno (hsource ▸ hyes)
    · exact Or.inr ⟨⟨x.toTournament, hfind, hlive', hsource ▸ hyes⟩, hrefunded⟩

/-! ### Setting up play -/

/-- Every registration counts, so a bracket is built from all of them. -/
theorem find_counted (hs : Ledger s) (tournamentId : String) :
    (s.registrations.find fun r => r.tournamentId = tournamentId && r.isCounted) =
      s.registrations.find fun r => r.tournamentId = tournamentId := by
  refine List.filter_congr fun r hr => ?_
  have hcounted : r.isCounted = true := by
    unfold TournamentRegistration.isCounted
    rw [(hs.registrations r hr).1]
    rfl
  rw [hcounted, Bool.and_true]

/-- Writing columns of registrations that are neither key nor status. -/
theorem rewriteAll_makes {β : Type} {xs : List β} {body : β → Service Unit}
    (hbody : ∀ x t, ∃ rs : Table TournamentRegistration.key,
      (body x).eval t = (.ok (), { t with registrations := rs }) ∧
      (rs.rows.map fun r => (r.key, r.status)) =
        t.registrations.rows.map fun r => (r.key, r.status)) :
    (each xs body).Ensures False s fun _ t => Effects R s t ∧
      (∃ rs, t = { s with registrations := rs }) ∧
      t.registrations.rows.map TournamentRegistration.key =
        s.registrations.rows.map TournamentRegistration.key := by
  refine ensures_each ⟨Relation.ReflTransGen.refl, ⟨s.registrations, rfl⟩, rfl⟩ fun x _ t ht => ?_
  rcases hbody x t with ⟨rs, heval, hrows⟩
  rw [ensures_false_iff, heval]
  rcases ht with ⟨heffects, ⟨rs', hrest⟩, hkeys⟩
  refine ⟨heffects.tail (.registrations rs hrows), ⟨rs, ?_⟩, ?_⟩
  · rw [hrest]
  · have hfst := congrArg (List.map Prod.fst) hrows
    rw [List.map_map, List.map_map] at hfst
    exact hfst.trans hkeys

theorem generateBracket_makes (hs : Ledger s) (request : GenerateBracketRequest) :
    Makes R (generateBracket request) s := by
  refine readTournament fun x hfind _ => makes_require fun _ => ?_
  have hkey : x.tournamentId = request.tournamentId := Table.key_of_findOne hfind
  rw [← hkey] at hfind
  refine makes_read (P := fun rs => rs = s.registrations.find fun r =>
    r.tournamentId = x.tournamentId && r.isCounted)
    (ensures_perform ⟨rfl, fun _ h => (Except.ok.inj h).symm⟩ False.elim) fun rs hrs =>
      makes_require fun _ => ?_
  rw [find_counted hs] at hrs
  -- Seeding rewrites the registrations under the same keys.
  refine makes_then (P := fun _ t => (∃ rs, t = { s with registrations := rs }) ∧
    t.registrations.rows.map TournamentRegistration.key =
      s.registrations.rows.map TournamentRegistration.key)
    (ensures_mono (rewriteAll_makes fun seeded t => ⟨_, rfl, Table.map_update fun _ _ _ => rfl⟩)
      fun _ t ht => ⟨ht.1, fun _ _ => ht.2⟩) fun _ t _ ht => ?_
  rcases ht with ⟨⟨rs', rfl⟩, hkeys⟩
  refine makes_write (.tournamentRow x.toTournament _ hfind rfl fun _ => ?_) ?_
  · -- So the bracket is seeded with the players that were registered before.
    refine ⟨request.hex, _, rfl, ?_⟩
    have hids : registeredIds rs' x.tournamentId =
        registeredIds s.registrations x.tournamentId := by
      rw [registeredIds_eq, registeredIds_eq]
      exact congrArg (fun keys => (keys.filter fun k => k.1 = x.tournamentId).map Prod.snd) hkeys
    change List.Perm _ (registeredIds rs' x.tournamentId)
    rw [hids, hrs]
    exact (seedPlayers_perm _ _).map _
  · -- The escrow is locked last.
    refine readEscrow fun escrow hescrow => ?_
    refine ensures_bind (ensures_mono (lockEscrow_ensures _ _) fun r u hu => ?_)
    cases r with
    | error e =>
        rw [hu.1]
    | ok _ =>
        rcases hu with ⟨found, hfound, -, rfl⟩
        have hfoundKey : found.escrowId = escrow.escrowId := Table.key_of_findOne hfound
        exact effects_one (.escrowStatus found .LOCKED (hfoundKey ▸ hfound))

theorem startTournament_makes (request : StartTournamentRequest) :
    Makes R (startTournament request) s := by
  refine readTournament fun x hfind _ => makes_require fun _ => ?_
  have hkey : x.tournamentId = request.tournamentId := Table.key_of_findOne hfind
  rw [← hkey] at hfind
  refine makes_read (P := fun _ => True) (ensures_mono (ensures_each (I := fun t => t = s) rfl
    fun pairing _ t ht => ?_) fun _ t ht => ⟨ht, fun _ _ => trivial⟩) fun _ _ => ?_
  · refine ensures_mono (createPairing_ensures _ pairing) fun _ u hu => ?_
    exact hu.1.trans ht
  · refine makes_write (.tournamentRow x.toTournament _ hfind rfl fun h => ?_) (makes_done _)
    exact nomatch h

/-! ### Play -/

theorem completeTournament_makes (hs : Ledger s) (x : Tournament) :
    (completeTournament x).Ensures False s fun _ t =>
      Effects R s t ∧ t.tournaments = s.tournaments := by
  refine ensures_bind (ensures_perform ?_ False.elim)
  -- First the places are written.
  refine ensures_bind (ensures_mono (rewriteAll_makes (R := R) fun placement t =>
    ⟨_, rfl, Table.map_update fun _ _ _ => rfl⟩) fun r t ht => ?_)
  rcases ht with ⟨heffects, ⟨rs, rfl⟩, -⟩
  cases r with
  | error e => exact ⟨heffects, rfl⟩
  | ok _ =>
      -- The ledger still holds then, so every recipient has a wallet.
      have hledger := effects_ledger heffects hs
      refine ensures_bind (ensures_perform ?_ False.elim)
      refine ensures_bind (ensures_mono (distribute_makes (R := R) (markRegistration_marksOnly _)
        fun amount dists hdists d hd => ?_) fun r u hu => ?_)
      · rcases tournamentPayments_recipient hdists d hd with ⟨registration, hmem, hplayer⟩
        rw [← hplayer]
        exact (hledger.registrations registration (List.mem_filter.mp hmem).1).2
      · cases r with
        | error e => exact ⟨heffects.trans hu.1, hu.2.2⟩
        | ok _ => exact ⟨heffects.trans hu.1, hu.2.2⟩

theorem advanceRound_makes (hs : Ledger s) (request : AdvanceRoundRequest) :
    Makes R (advanceRound request) s := by
  refine readTournament fun x hfind _ => makes_require fun hplaying => ?_
  have hkey : x.tournamentId = request.tournamentId := Table.key_of_findOne hfind
  rw [← hkey] at hfind
  have hstatus : x.status = .IN_PROGRESS := of_decide_eq_true hplaying
  refine makes_read (P := fun _ => True) (ensures_demand (fun _ _ => ⟨rfl, fun _ _ => trivial⟩)
    fun _ => ⟨rfl, fun _ _ => trivial⟩) fun bracket _ => ?_
  unfold settleRound
  -- The last round pays the prizes first, and any round saves the bracket.
  split
  · refine makes_then (P := fun _ t => t.tournaments = s.tournaments)
      (ensures_mono (completeTournament_makes hs _) fun _ t ht => ⟨ht.1, fun _ _ => ht.2⟩)
      fun _ t _ ht => ?_
    refine makes_write (.tournamentRow x.toTournament _ (ht ▸ hfind) rfl fun h => ?_) (makes_done _)
    exact nomatch h
  · refine makes_write (.tournamentRow x.toTournament _ hfind rfl fun h => ?_) (makes_done _)
    exact nomatch hstatus.symm.trans h

/-! ### Every call -/

theorem discard_makes {α : Type} {p : Service α} (h : Makes R p s) : Makes R (discard p) s :=
  discard_ensures h

/-- Every public call is a chain of effects, and the chain refunds an escrow
    only when the call says so. -/
theorem call_makes (hs : Ledger s) {call : Call} (haccepted : call.Accepted)
    (hpublic : call.isPublic = true) : Makes (call.refunds s) call.program s := by
  cases call with
  | createWallet request => exact discard_makes (createWallet_makes haccepted)
  | deposit request => exact discard_makes (deposit_makes request)
  | withdraw request => exact discard_makes (withdraw_makes request)
  | createMatch request => exact discard_makes (createMatch_makes request)
  | joinMatch request => exact discard_makes (joinMatch_makes hs request)
  | startMatch matchId now => exact discard_makes (startMatch_makes matchId now)
  | submitResult request => exact discard_makes (submitResult_makes hs request)
  | cancelMatch matchId now =>
      -- The two cancellations are the only calls that refund.
      refine discard_makes (ensures_mono (cancelMatch_calm hs matchId now) fun r t ht => ?_)
      rcases ht.2 with ⟨rfl, -⟩ | ⟨hrefunds, hrefunded⟩
      · exact Relation.ReflTransGen.refl
      · exact effects_one (.refund _ hrefunds hrefunded)
  | createTournament request => exact discard_makes (createTournament_makes request)
  | openRegistration tournamentId => exact discard_makes (openRegistration_makes tournamentId)
  | registerPlayer request => exact discard_makes (registerPlayer_makes hs request)
  | closeRegistration tournamentId => exact discard_makes (closeRegistration_makes tournamentId)
  | generateBracket request => exact discard_makes (generateBracket_makes hs request)
  | startTournament request => exact discard_makes (startTournament_makes request)
  | advanceRound request => exact discard_makes (advanceRound_makes hs request)
  | cancelTournament tournamentId now =>
      refine discard_makes (ensures_mono (cancelTournament_calm hs tournamentId now)
        fun r t ht => ?_)
      rcases ht.2 with ⟨rfl, -⟩ | ⟨hrefunds, hrefunded⟩
      · exact Relation.ReflTransGen.refl
      · exact effects_one (.refund _ hrefunds hrefunded)
  -- No client can make the remaining calls.
  | createEscrow _ | depositToEscrow _ | lockEscrow _ | releaseEscrow _ | refundEscrow _
  | closeEscrow _ | lockFunds _ | unlockFunds _ | deductEntryFee _ _ => exact nomatch hpublic

end Calls

/-- The runs the results about calm stores speak of. -/
structure CalmRun (run : Run) : Prop where
  accepted : run.Accepted
  public_ : run.Public
  calm : run.Calm

theorem calmRun_calmly {calls : List Call} (haccepted : (Run.calmly calls).Accepted)
    (hpublic : (Run.calmly calls).Public) : CalmRun (Run.calmly calls) :=
  ⟨haccepted, hpublic, Run.calmly_calm calls⟩

/-- The invariant holds after every calm run. -/
theorem ledger_after {run : Run} (hrun : CalmRun run) : Ledger (Db.empty.after run) := by
  refine after_invariant (C := False) (P := fun call => call.Accepted ∧ call.isPublic = true)
    (I := Ledger) (fun call s hcall hs => ?_) ledger_empty
    (fun call hmem => ⟨hrun.accepted call hmem, hrun.public_ call hmem⟩) fun _ => hrun.calm
  exact ensures_mono (call_makes hs hcall.1 hcall.2) fun _ _ ht => effects_ledger ht hs

end Esports

end SvmCourse
