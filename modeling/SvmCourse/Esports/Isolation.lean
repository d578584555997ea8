import SvmCourse.Esports.Entering
import SvmCourse.Esports.System

/-!
# Tokens Kept Apart

Matches, tournaments and escrows are kept in a token. A wallet is not: it has
one available and one locked balance, and an entry fee is taken out of them
whatever the fee is counted in. So a player who has lamports can enter a match
in another token, one lamport for each base unit, and once somebody has, the
prizes of that match are paid in lamports as well.

It all hangs on the entries. An escrow in another token that nobody has paid
into is still as it was created, and neither locks, nor releases, nor refunds.
So runs in which nobody who could pay enters such a match keep the tokens
apart, whatever else is called on it, and whatever accesses are refused.

## Main definitions

* `Db.tokenOf`: The token of a match or tournament.
* `Call.about`: The match or tournament whose money a call moves.
* `TokensIsolated`: A step leaves lamports out of other tokens.
* `Call.entersForeign`: The call pays for an entry in another token.
* `Apart`: Escrows in other tokens are as they were created.

## Theorems

* `call_isolated`: A call without such an entry keeps the tokens apart.
* `tokens_isolated`: Runs without such entries keep tokens apart.
-/

namespace SvmCourse

namespace Esports

open Core Core.Prog

/-! ### Tokens -/

/-- The token of a match or tournament. -/
def Db.tokenOf (db : Db) (source : SourceId) : Option SupportedToken :=
  match source.sourceType with
  | .MATCH => (db.matchRows.findOne source.hex).map Match.tokenType
  | .TOURNAMENT => (db.tournaments.findOne source.hex).map Tournament.tokenType

/-- The match or tournament whose money a call moves. -/
def Call.about : Call → Option SourceId
  | .joinMatch request => some (matchSource request.matchId)
  | .startMatch matchId _ => some (matchSource matchId)
  | .submitResult request => some (matchSource request.matchId)
  | .cancelMatch matchId _ => some (matchSource matchId)
  | .openRegistration tournamentId => some (tournamentSource tournamentId)
  | .registerPlayer request => some (tournamentSource request.tournamentId)
  | .closeRegistration tournamentId => some (tournamentSource tournamentId)
  | .generateBracket request => some (tournamentSource request.tournamentId)
  | .startTournament request => some (tournamentSource request.tournamentId)
  | .advanceRound request => some (tournamentSource request.tournamentId)
  | .cancelTournament tournamentId _ => some (tournamentSource tournamentId)
  -- The other calls name no match and no tournament that is there already.
  | _ => none

/-- Wallets hold lamports, so a call about another token leaves all of them
    alone: no entry is paid out of them and no prize is paid into them. -/
def TokensIsolated (call : Call) (s t : Db) : Prop :=
  ∀ source token, call.about = some source → s.tokenOf source = some token → token ≠ .SOL →
    ∀ playerId, t.balances playerId = s.balances playerId

/-- The match is in another token and open to the player, and the wallet of the
    player has as many lamports as the fee has base units. -/
def JoinMatchRequest.paysForeign (request : JoinMatchRequest) (s : Db) : Bool :=
  (s.matchRows.findOne request.matchId).any fun m =>
    m.tokenType ≠ .SOL && (s.loadedMatch m).isJoinable &&
      (s.participants.findOne (m.matchId, request.playerId)).isNone &&
      s.canPay request.playerId m.entryFee

/-- The same of a tournament. -/
def RegisterPlayerRequest.paysForeign (request : RegisterPlayerRequest) (s : Db) : Bool :=
  (s.tournaments.findOne request.tournamentId).any fun t =>
    t.tokenType ≠ .SOL && (s.loaded t).isRegistrationOpen request.now &&
      (s.registrations.findOne (t.tournamentId, request.playerId)).isNone &&
      s.canPay request.playerId t.entryFee

/-- The call pays lamports for an entry in another token. -/
def Call.entersForeign (call : Call) (s : Db) : Bool :=
  match call with
  | .joinMatch request => request.paysForeign s
  | .registerPlayer request => request.paysForeign s
  | _ => false

/-! ### The invariant -/

/-- Every match and tournament has an escrow, and nobody has paid into those
    in other tokens. -/
def Apart (db : Db) : Prop :=
  ∀ source token, db.tokenOf source = some token → ∃ escrow,
    db.escrows.findOne source = some escrow ∧ (token ≠ .SOL → escrow.status = .CREATED)

/-- What holds while a call about `source` is running: tokens are apart, the
    token of `source` is known, and unless it is SOL the wallets hold `funds`. -/
structure Steady (source : SourceId) (token : SupportedToken)
    (funds : String → Option (Int × Int)) (db : Db) : Prop where
  apart : Apart db
  tokenOf_eq : db.tokenOf source = some token
  funds_eq : token ≠ .SOL → ∀ playerId, db.balances playerId = funds playerId

section Tokens

variable {s t : Db} {source : SourceId} {token : SupportedToken}
  {funds : String → Option (Int × Int)}

theorem apart_empty : Apart Db.empty := by
  rintro ⟨sourceType, hex⟩ token h
  cases sourceType with
  | MATCH => exact nomatch h
  | TOURNAMENT => exact nomatch h

theorem Apart.frame (h : Apart s) (hescrows : t.escrows = s.escrows)
    (hmatches : t.matchRows = s.matchRows) (htournaments : t.tournaments = s.tournaments) :
    Apart t := by
  unfold Apart Db.tokenOf at h ⊢
  rwa [hescrows, hmatches, htournaments]

theorem tokenOf_saveMatch (db : Db) (m : Match) (source : SourceId) :
    Db.tokenOf { db with matchRows := db.matchRows.save m } source =
      if source = m.source then some m.tokenType else db.tokenOf source := by
  rcases source with ⟨sourceType, hex⟩
  unfold Db.tokenOf Match.source
  cases sourceType with
  | TOURNAMENT =>
      rw [if_neg (by simp)]
  | MATCH =>
      simp only [Table.findOne_save, SourceId.mk.injEq, true_and]
      by_cases h : hex = m.matchId
      · rw [if_pos h, if_pos h, Option.map_some]
      · rw [if_neg h, if_neg h]

theorem tokenOf_saveTournament (db : Db) (x : Tournament) (source : SourceId) :
    Db.tokenOf { db with tournaments := db.tournaments.save x } source =
      if source = x.source then some x.tokenType else db.tokenOf source := by
  rcases source with ⟨sourceType, hex⟩
  unfold Db.tokenOf Tournament.source
  cases sourceType with
  | MATCH =>
      rw [if_neg (by simp)]
  | TOURNAMENT =>
      simp only [Table.findOne_save, SourceId.mk.injEq, true_and]
      by_cases h : hex = x.tournamentId
      · rw [if_pos h, if_pos h, Option.map_some]
      · rw [if_neg h, if_neg h]

/-- Saving a row in the token its source already has. -/
theorem Apart.saveRow (h : Apart s) (hescrows : t.escrows = s.escrows)
    (htoken : ∀ source', t.tokenOf source' =
      if source' = source then some token else s.tokenOf source')
    (hsame : s.tokenOf source = some token) : Apart t := by
  intro source' token' h'
  rw [htoken] at h'
  rw [hescrows]
  by_cases hsource : source' = source
  · rw [if_pos hsource] at h'
    rw [hsource, ← Option.some.inj h']
    exact h source token hsame
  · rw [if_neg hsource] at h'
    exact h source' token' h'

/-- Saving an escrow of a source in SOL, or one that is as it was created. -/
theorem Apart.saveEscrow (h : Apart s) {escrow : EscrowAccount}
    (hok : s.tokenOf escrow.escrowId = some .SOL ∨ escrow.status = .CREATED)
    (hescrows : t.escrows = s.escrows.save escrow) (hmatches : t.matchRows = s.matchRows)
    (htournaments : t.tournaments = s.tournaments) : Apart t := by
  intro source' token' h'
  unfold Db.tokenOf at h'
  rw [hmatches, htournaments] at h'
  rw [hescrows, Table.findOne_save]
  -- The saved escrow is in SOL or as it was created, and the others stay.
  by_cases hsource : source' = escrow.escrowId
  · rw [if_pos hsource]
    refine ⟨escrow, rfl, fun hforeign => ?_⟩
    rcases hok with hsol | hcreated
    · rw [hsource] at h'
      exact absurd (Option.some.inj (h'.symm.trans hsol)) hforeign
    · exact hcreated
  · rw [if_neg hsource]
    exact h source' token' h'

/-! ### What the accesses of a call uphold -/

theorem Steady.frame (h : Steady source token funds s) (hescrows : t.escrows = s.escrows)
    (hmatches : t.matchRows = s.matchRows) (htournaments : t.tournaments = s.tournaments)
    (hfunds : token ≠ .SOL → t.wallets = s.wallets) : Steady source token funds t where
  apart := h.apart.frame hescrows hmatches htournaments
  tokenOf_eq := by
    have htoken := h.tokenOf_eq
    unfold Db.tokenOf at htoken ⊢
    rwa [hmatches, htournaments]
  funds_eq hforeign playerId := by
    unfold Db.balances
    rw [hfunds hforeign]
    exact h.funds_eq hforeign playerId

theorem Steady.saveEscrow (h : Steady source .SOL funds s) {escrow : EscrowAccount}
    (hkey : escrow.escrowId = source) :
    Steady source .SOL funds { s with escrows := s.escrows.save escrow } where
  apart := h.apart.saveEscrow (Or.inl (hkey ▸ h.tokenOf_eq)) rfl rfl rfl
  tokenOf_eq := h.tokenOf_eq
  funds_eq hforeign := absurd rfl hforeign

theorem Steady.saveMatch (h : Steady source token funds s) {m : Match} (hsource : m.source = source)
    (htoken : m.tokenType = token) :
    Steady source token funds { s with matchRows := s.matchRows.save m } where
  apart := by
    subst hsource htoken
    exact h.apart.saveRow rfl (tokenOf_saveMatch s m) h.tokenOf_eq
  tokenOf_eq := by
    rw [tokenOf_saveMatch, if_pos hsource.symm, htoken]
  funds_eq hforeign := h.funds_eq hforeign

theorem Steady.saveTournament (h : Steady source token funds s) {x : Tournament}
    (hsource : x.source = source) (htoken : x.tokenType = token) :
    Steady source token funds { s with tournaments := s.tournaments.save x } where
  apart := by
    subst hsource htoken
    exact h.apart.saveRow rfl (tokenOf_saveTournament s x) h.tokenOf_eq
  tokenOf_eq := by
    rw [tokenOf_saveTournament, if_pos hsource.symm, htoken]
  funds_eq hforeign := h.funds_eq hforeign

end Tokens

/-! ### Escrow operations and the payout -/

section Steady

variable {source : SourceId} {token : SupportedToken} {funds : String → Option (Int × Int)}

theorem steady_ignoresWallets (htoken : token = .SOL) :
    IgnoresWallets (Steady source token funds) :=
  fun _ _ _ _ hs => hs.frame rfl rfl rfl fun hforeign => absurd htoken hforeign

/-- An access to none of the tables that matter. -/
theorem steady_query {α : Type} {act : Db → α × Db} (hescrows : ∀ s, (act s).2.escrows = s.escrows)
    (hmatches : ∀ s, (act s).2.matchRows = s.matchRows)
    (htournaments : ∀ s, (act s).2.tournaments = s.tournaments)
    (hwallets : ∀ s, (act s).2.wallets = s.wallets) :
    (query act).Upholds (Steady source token funds) fun _ => True :=
  upholds_perform fun s hs =>
    ⟨hs.frame (hescrows s) (hmatches s) (htournaments s) fun _ => hwallets s, trivial⟩

/-- The escrow a call about `source` finds: in another token it is as it was
    created. -/
def OwnEscrow (source : SourceId) (token : SupportedToken) (escrow : EscrowAccount) : Prop :=
  escrow.escrowId = source ∧ (token ≠ .SOL → escrow.status = .CREATED)

theorem demandEscrow_upholds (refusal : ServiceError) :
    ((escrowRepository.findOne source).bind fun escrow => demand escrow refusal).Upholds
      (Steady source token funds) (OwnEscrow source token) := by
  refine upholds_bind (R := fun found => ∀ escrow, found = some escrow →
    OwnEscrow source token escrow)
    (upholds_perform fun s hs => ⟨hs, fun escrow hfind => ?_⟩) fun found hfound =>
      upholds_demand hfound
  rcases hs.apart source token hs.tokenOf_eq with ⟨stored, hstored, hstatus⟩
  rw [Option.some.inj (hfind.symm.trans hstored)]
  exact ⟨Table.key_of_findOne hstored, hstatus⟩

theorem saveEscrow_upholds {escrow : EscrowAccount} (hkey : escrow.escrowId = source)
    (htoken : token = .SOL) :
    (escrowRepository.save escrow).Upholds (Steady source token funds) fun _ => True := by
  subst htoken
  exact upholds_perform fun s hs => ⟨hs.saveEscrow hkey, trivial⟩

theorem lockEscrow_upholds :
    (lockEscrow source).Upholds (Steady source token funds) fun _ => True := by
  refine upholds_bind (demandEscrow_upholds _) fun escrow hown => ?_
  refine upholds_bind (R := fun _ => token = .SOL) (upholds_require fun hactive => ?_)
    fun _ htoken => ?_
  · by_contra hforeign
    rw [hown.2 hforeign] at hactive
    exact nomatch hactive
  · exact upholds_bind (saveEscrow_upholds hown.1 htoken) fun _ _ => trivial

theorem depositToEscrow_upholds {request : DepositToEscrowRequest}
    (hsource : request.escrowId = source) (htoken : token = .SOL) :
    (depositToEscrow request).Upholds (Steady source token funds) fun _ => True := by
  subst hsource
  refine upholds_bind (demandEscrow_upholds _) fun escrow hown => ?_
  refine upholds_bind (R := fun _ => True) (upholds_require fun _ => trivial) fun _ _ => ?_
  refine upholds_bind (steady_query (fun _ => rfl) (fun _ => rfl) (fun _ => rfl) fun _ => rfl)
    fun _ _ => ?_
  exact upholds_bind (saveEscrow_upholds hown.1 htoken) fun _ _ => trivial

theorem settleEscrow_upholds {escrow settled : EscrowAccount} (transitional back : EscrowStatus)
    (txs : List EscrowTransaction) (hkey : escrow.escrowId = source)
    (hkey' : settled.escrowId = source) (htoken : token = .SOL) :
    (settleEscrow escrow transitional back txs settled).Upholds (Steady source token funds)
      fun _ => True := by
  refine upholds_bind (saveEscrow_upholds hkey htoken) fun _ _ => ?_
  refine upholds_bind (R := fun _ => True) (upholds_onError (upholds_each fun _ _ =>
    steady_query (fun _ => rfl) (fun _ => rfl) (fun _ => rfl) fun _ => rfl)
    fun _ => saveEscrow_upholds hkey htoken) fun _ _ => ?_
  exact upholds_onError (saveEscrow_upholds hkey' htoken) fun _ => saveEscrow_upholds hkey' htoken

theorem releaseEscrow_upholds {request : ReleaseEscrowRequest}
    (hsource : request.escrowId = source) :
    (releaseEscrow request).Upholds (Steady source token funds) fun _ => token = .SOL := by
  subst hsource
  refine upholds_bind (demandEscrow_upholds _) fun escrow hown => ?_
  refine upholds_bind (R := fun _ => token = .SOL) (upholds_require fun hcan => ?_)
    fun _ htoken => ?_
  · by_contra hforeign
    unfold EscrowAccount.canRelease at hcan
    rw [hown.2 hforeign] at hcan
    exact nomatch hcan
  refine upholds_bind (R := fun _ => True) (upholds_require fun _ => trivial) fun _ _ => ?_
  exact upholds_bind (settleEscrow_upholds _ _ _ hown.1 hown.1 htoken) fun _ _ => htoken

theorem refundEscrow_upholds {request : RefundEscrowRequest} (hsource : request.escrowId = source) :
    (refundEscrow request).Upholds (Steady source token funds) fun _ => token = .SOL := by
  subst hsource
  refine upholds_bind (demandEscrow_upholds _) fun escrow hown => ?_
  refine upholds_bind (R := fun _ => token = .SOL) (upholds_require fun hcan => ?_)
    fun _ htoken => ?_
  · -- A foreign escrow is as it was created, and cannot be refunded.
    by_contra hforeign
    unfold EscrowAccount.canRefund at hcan
    rw [hown.2 hforeign] at hcan
    exact nomatch hcan
  refine upholds_bind (R := fun _ => True) (upholds_perform fun s hs => ⟨hs, trivial⟩)
    fun deposits _ => ?_
  refine upholds_bind (R := fun _ => True) (upholds_require fun _ => trivial) fun _ _ => ?_
  exact upholds_bind (settleEscrow_upholds _ _ _ hown.1 hown.1 htoken) fun _ _ => htoken

theorem creditAll_upholds {mark : PrizeCalculation → Service Unit} (htoken : token = .SOL)
    (hmark : ∀ dist, (mark dist).Upholds (Steady source token funds) fun _ => True)
    (dists : List PrizeCalculation) (record : PrizeDistribution) (total : Int) :
    (creditAll source mark dists record total).Upholds (Steady source token funds)
      fun _ => True := by
  induction dists generalizing record total with
  | nil => exact trivial
  | cons dist dists ih =>
      refine upholds_bind (R := fun _ => True) (upholds_rescue ?_ fun _ => trivial)
        fun next _ => ih _ _
      refine upholds_bind (R := fun _ => True) ?_ fun _ _ => trivial
      exact upholds_bind (creditPrize_upholds (steady_ignoresWallets htoken) _ _ _)
        fun _ _ => hmark dist

/-- A payout gets no further than the release of the escrow, which is refused
    in another token. -/
theorem distribute_upholds {payout : Payout} (hsource : payout.source = source)
    (hmark : ∀ dist, (payout.mark dist).Upholds (Steady source token funds) fun _ => True) :
    (distribute payout).Upholds (Steady source token funds) fun _ => True := by
  subst hsource
  have hsave : ∀ id record, (prizeRepository.save id record).Upholds
      (Steady payout.source token funds) fun _ => True := fun _ _ =>
    steady_query (fun _ => rfl) (fun _ => rfl) (fun _ => rfl) fun _ => rfl
  refine upholds_bind (demandEscrow_upholds _) fun escrow hown => ?_
  refine upholds_bind (R := fun _ => True) ?_ fun balance _ => ?_
  · unfold getEscrowBalance getEscrowById
    rw [hown.1]
    exact upholds_mono (demandEscrow_upholds _) fun _ _ => trivial
  refine upholds_bind (R := fun _ => True) (upholds_compute fun _ _ => trivial) fun dists _ => ?_
  refine upholds_bind (steady_query (fun _ => rfl) (fun _ => rfl) (fun _ => rfl) fun _ => rfl)
    fun id _ => ?_
  -- If the release returns, the escrow is one of lamports, which are what the wallets
  -- hold.
  refine upholds_bind (upholds_onError (releaseEscrow_upholds rfl) fun _ => hsave _ _)
    fun _ htoken => ?_
  refine upholds_bind (creditAll_upholds htoken hmark _ _ _) fun outcome _ => ?_
  exact upholds_bind (R := fun _ => True) (upholds_onError (hsave _ _) fun _ => hsave _ _)
    fun _ _ => trivial

/-! ### Matches -/

theorem demandMatch_upholds {matchId : String} (refusal : ServiceError) :
    ((matchRepository.findOne matchId).bind fun m => demand m refusal).Upholds
      (Steady (matchSource matchId) token funds)
      fun m => m.matchId = matchId ∧ m.tokenType = token := by
  refine upholds_bind (R := fun found : Option LoadedMatch => ∀ m, found = some m →
      m.matchId = matchId ∧ m.tokenType = token)
    (upholds_perform fun s hs => ⟨hs, fun m hfind => ?_⟩) fun found hfound => upholds_demand hfound
  rcases Option.map_eq_some_iff.mp hfind with ⟨row, hrow, rfl⟩
  have htoken := hs.tokenOf_eq
  unfold Db.tokenOf matchSource at htoken
  simp only [hrow, Option.map_some, Option.some.injEq] at htoken
  exact ⟨Table.key_of_findOne hrow, htoken⟩

theorem saveMatch_upholds {matchId : String} {m : Match} (hid : m.matchId = matchId)
    (htoken : m.tokenType = token) :
    (matchRepository.save m).Upholds (Steady (matchSource matchId) token funds) fun _ => True :=
  upholds_perform fun _ hs => ⟨hs.saveMatch (congrArg matchSource hid) htoken, trivial⟩

theorem enter_upholds {α : Type} {entry : Entry α} (hsource : entry.source = source)
    (htoken : token = .SOL) (hregister : ∀ wallet,
      (entry.register wallet).Upholds (Steady source token funds) fun _ => True) :
    (enter entry).Upholds (Steady source token funds) fun _ => True := by
  subst hsource
  have hwallets : IgnoresWallets (Steady entry.source token funds) := steady_ignoresWallets htoken
  refine upholds_bind (R := fun _ => True) ?_ fun wallet _ => upholds_onError ?_ fun e => ?_
  · refine upholds_bind (getWallet_upholds _) fun wallet _ => ?_
    exact upholds_bind (lockFunds_upholds hwallets _) fun _ _ => trivial
  · refine upholds_bind (demandEscrow_upholds _) fun escrow hown => ?_
    refine upholds_bind (depositToEscrow_upholds hown.1 htoken) fun _ _ => ?_
    exact upholds_bind (deductEntryFee_upholds hwallets _ _) fun _ _ => hregister wallet
  · exact upholds_bind (unlockFunds_upholds hwallets _) fun _ _ => trivial

/-- A join of a match in SOL. -/
theorem joinMatch_upholds (request : JoinMatchRequest) :
    (joinMatch request).Upholds (Steady (matchSource request.matchId) .SOL funds)
      fun _ => True := by
  refine upholds_bind (R := fun m => m.matchId = request.matchId ∧ m.tokenType = .SOL) ?_
    fun m hm => ?_
  · refine upholds_bind (demandMatch_upholds _) fun m hm => ?_
    refine upholds_bind (R := fun _ => True) (upholds_require fun _ => trivial) fun _ _ => ?_
    refine upholds_bind (R := fun _ => True) (upholds_perform fun s hs => ⟨hs, trivial⟩)
      fun existing _ => ?_
    exact upholds_bind (R := fun _ => True) (upholds_require fun _ => trivial) fun _ _ => hm
  · refine enter_upholds (congrArg matchSource hm.1) rfl fun wallet => ?_
    refine upholds_bind (steady_query (fun _ => rfl) (fun _ => rfl) (fun _ => rfl) fun _ => rfl)
      fun _ _ => ?_
    exact upholds_bind (saveMatch_upholds (m := afterJoin m) hm.1 hm.2) fun _ _ => trivial

theorem startMatch_upholds (matchId : String) (now : Int) :
    (startMatch matchId now).Upholds (Steady (matchSource matchId) token funds) fun _ => True := by
  refine upholds_bind (demandMatch_upholds _) fun m hm => ?_
  refine upholds_bind (R := fun _ => True) (upholds_require fun _ => trivial) fun _ _ => ?_
  refine upholds_bind (demandEscrow_upholds _) fun escrow hown => ?_
  refine upholds_bind (R := fun _ => True) (hown.1 ▸ lockEscrow_upholds) fun _ _ => ?_
  refine upholds_bind (steady_query (fun _ => rfl) (fun _ => rfl) (fun _ => rfl) fun _ => rfl)
    fun _ _ => ?_
  exact upholds_bind (saveMatch_upholds hm.1 hm.2) fun _ _ => trivial

theorem submitResult_upholds (request : SubmitResultRequest) :
    (submitResult request).Upholds (Steady (matchSource request.matchId) token funds)
      fun _ => True := by
  refine upholds_bind (demandMatch_upholds _) fun m hm => ?_
  refine upholds_bind (R := fun _ => True) (upholds_require fun _ => trivial) fun _ _ => ?_
  refine upholds_bind (steady_query (fun _ => rfl) (fun _ => rfl) (fun _ => rfl) fun _ => rfl)
    fun participants _ => ?_
  refine upholds_bind (R := fun _ => True) (upholds_compute fun _ _ => trivial) fun _ _ => ?_
  have hcompleted : (afterResult m.toMatch request).matchId = request.matchId := hm.1
  -- The rows of the match change, and only the payout moves money.
  refine upholds_bind (saveMatch_upholds hcompleted hm.2) fun _ _ => ?_
  refine upholds_bind (upholds_each fun _ _ => steady_query (fun _ => rfl) (fun _ => rfl)
    (fun _ => rfl) fun _ => rfl) fun _ _ => ?_
  refine upholds_bind (upholds_each fun _ _ => steady_query (fun _ => rfl) (fun _ => rfl)
    (fun _ => rfl) fun _ => rfl) fun _ _ => ?_
  refine upholds_bind (distribute_upholds (congrArg matchSource hcompleted) fun _ =>
    steady_query (fun _ => rfl) (fun _ => rfl) (fun _ => rfl) fun _ => rfl) fun _ _ => ?_
  exact upholds_bind (saveMatch_upholds hcompleted hm.2) fun _ _ => trivial

theorem cancelMatch_upholds (matchId : String) (now : Int) :
    (cancelMatch matchId now).Upholds (Steady (matchSource matchId) token funds)
      fun _ => True := by
  refine upholds_bind (demandMatch_upholds _) fun m hm => ?_
  refine upholds_bind (R := fun _ => True) (upholds_require fun _ => trivial) fun _ _ => ?_
  refine upholds_bind (demandEscrow_upholds _) fun escrow hown => ?_
  refine upholds_bind (refundEscrow_upholds hown.1) fun _ htoken => ?_
  refine upholds_bind (steady_query (fun _ => rfl) (fun _ => rfl) (fun _ => rfl) fun _ => rfl)
    fun participants _ => ?_
  refine upholds_bind (upholds_each fun participant _ => ?_) fun _ _ => ?_
  · refine upholds_bind (unlockFunds_upholds (steady_ignoresWallets htoken) _) fun _ _ => ?_
    exact steady_query (fun _ => rfl) (fun _ => rfl) (fun _ => rfl) fun _ => rfl
  · exact upholds_bind (saveMatch_upholds hm.1 hm.2) fun _ _ => trivial

/-! ### Tournaments -/

theorem demandTournament_upholds {tournamentId : String} (refusal : ServiceError) :
    ((tournamentRepository.findOne tournamentId).bind fun t => demand t refusal).Upholds
      (Steady (tournamentSource tournamentId) token funds)
      fun t => t.tournamentId = tournamentId ∧ t.tokenType = token := by
  refine upholds_bind (R := fun found : Option LoadedTournament => ∀ t, found = some t →
      t.tournamentId = tournamentId ∧ t.tokenType = token)
    (upholds_perform fun s hs => ⟨hs, fun t hfind => ?_⟩) fun found hfound => upholds_demand hfound
  rcases Option.map_eq_some_iff.mp hfind with ⟨row, hrow, rfl⟩
  have htoken := hs.tokenOf_eq
  unfold Db.tokenOf tournamentSource at htoken
  simp only [hrow, Option.map_some, Option.some.injEq] at htoken
  exact ⟨Table.key_of_findOne hrow, htoken⟩

theorem saveTournament_upholds {tournamentId : String} {t : Tournament}
    (hid : t.tournamentId = tournamentId) (htoken : t.tokenType = token) :
    (tournamentRepository.save t).Upholds (Steady (tournamentSource tournamentId) token funds)
      fun _ => True :=
  upholds_perform fun _ hs => ⟨hs.saveTournament (congrArg tournamentSource hid) htoken, trivial⟩

/-- Opening and closing registration save the row under another status. -/
theorem setStatus_upholds (tournamentId : String) (allowed : LoadedTournament → Bool)
    (refusal : ServiceError) (status : TournamentStatus) :
    ((getTournamentById tournamentId).bind fun t => (require (allowed t) refusal).bind fun _ =>
      (tournamentRepository.save { t.toTournament with status := status }).bind fun _ =>
        Prog.done { t.toTournament with status := status }).Upholds
      (Steady (tournamentSource tournamentId) token funds) fun _ => True := by
  refine upholds_bind (demandTournament_upholds _) fun t ht => ?_
  refine upholds_bind (R := fun _ => True) (upholds_require fun _ => trivial) fun _ _ => ?_
  exact upholds_bind (saveTournament_upholds ht.1 ht.2) fun _ _ => trivial

/-- A registration for a tournament in SOL. -/
theorem registerPlayer_upholds (request : RegisterPlayerRequest) :
    (registerPlayer request).Upholds (Steady (tournamentSource request.tournamentId) .SOL funds)
      fun _ => True := by
  refine upholds_bind (R := fun t => t.tournamentId = request.tournamentId ∧ t.tokenType = .SOL) ?_
    fun t ht => ?_
  · refine upholds_bind (demandTournament_upholds _) fun t ht => ?_
    refine upholds_bind (R := fun _ => True) (upholds_require fun _ => trivial) fun _ _ => ?_
    refine upholds_bind (R := fun _ => True) (upholds_perform fun s hs => ⟨hs, trivial⟩)
      fun existing _ => ?_
    exact upholds_bind (R := fun _ => True) (upholds_require fun _ => trivial) fun _ _ => ht
  · -- The entry is paid in lamports, which is the token of the tournament.
    refine enter_upholds (congrArg tournamentSource ht.1) rfl fun wallet => ?_
    refine upholds_bind (steady_query (fun _ => rfl) (fun _ => rfl) (fun _ => rfl) fun _ => rfl)
      fun _ _ => ?_
    exact upholds_bind (saveTournament_upholds (t := afterRegistration t) ht.1 ht.2)
      fun _ _ => trivial

theorem generateBracket_upholds (request : GenerateBracketRequest) :
    (generateBracket request).Upholds (Steady (tournamentSource request.tournamentId) token funds)
      fun _ => True := by
  refine upholds_bind (demandTournament_upholds _) fun t ht => ?_
  refine upholds_bind (R := fun _ => True) (upholds_require fun _ => trivial) fun _ _ => ?_
  refine upholds_bind (steady_query (fun _ => rfl) (fun _ => rfl) (fun _ => rfl) fun _ => rfl)
    fun registrations _ => ?_
  refine upholds_bind (R := fun _ => True) (upholds_require fun _ => trivial) fun _ _ => ?_
  refine upholds_bind (upholds_each fun _ _ => steady_query (fun _ => rfl) (fun _ => rfl)
    (fun _ => rfl) fun _ => rfl) fun _ _ => ?_
  refine upholds_bind (saveTournament_upholds ht.1 ht.2) fun _ _ => ?_
  have hsource : t.source = tournamentSource request.tournamentId := congrArg tournamentSource ht.1
  rw [hsource]
  -- Only a funded escrow can be locked, and a foreign one is not.
  refine upholds_bind (demandEscrow_upholds _) fun escrow hown => ?_
  exact upholds_bind (R := fun _ => True) (hown.1 ▸ lockEscrow_upholds) fun _ _ => trivial

/-- The matches of the pairings are refused, their entry fee being zero. -/
theorem createPairing_upholds {I : Db → Prop} (hex : Nat → String) (pairing : BracketMatch × Nat) :
    (createPairing hex pairing).Upholds I fun _ => True := by
  unfold createPairing
  split
  · have hzero : isValidEntryFee .SOL 0 = false := by decide
    refine upholds_bind (R := fun _ => True) ?_ fun _ _ => trivial
    exact upholds_bind (R := fun _ => False) (upholds_require fun h => nomatch hzero.symm.trans h)
      fun _ hfalse => hfalse.elim
  · exact trivial

theorem startTournament_upholds (request : StartTournamentRequest) :
    (startTournament request).Upholds (Steady (tournamentSource request.tournamentId) token funds)
      fun _ => True := by
  refine upholds_bind (demandTournament_upholds _) fun t ht => ?_
  refine upholds_bind (R := fun _ => True) (upholds_require fun _ => trivial) fun _ _ => ?_
  refine upholds_bind (upholds_each fun pairing _ => createPairing_upholds _ pairing) fun _ _ => ?_
  exact upholds_bind (saveTournament_upholds ht.1 ht.2) fun _ _ => trivial

theorem advanceRound_upholds (request : AdvanceRoundRequest) :
    (advanceRound request).Upholds (Steady (tournamentSource request.tournamentId) token funds)
      fun _ => True := by
  refine upholds_bind (demandTournament_upholds _) fun t ht => ?_
  refine upholds_bind (R := fun _ => True) (upholds_require fun _ => trivial) fun _ _ => ?_
  refine upholds_bind (R := fun _ => True) (upholds_demand fun _ _ => trivial) fun bracket _ => ?_
  have hsource : t.source = tournamentSource request.tournamentId := congrArg tournamentSource ht.1
  unfold settleRound
  split
  · -- The final is decided, so the tournament is completed and paid out.
    refine upholds_bind (R := fun _ => True) ?_ fun _ _ => ?_
    · refine upholds_bind (steady_query (fun _ => rfl) (fun _ => rfl) (fun _ => rfl) fun _ => rfl)
        fun _ _ => ?_
      refine upholds_bind (upholds_each fun _ _ => steady_query (fun _ => rfl) (fun _ => rfl)
        (fun _ => rfl) fun _ => rfl) fun _ _ => ?_
      refine upholds_bind (steady_query (fun _ => rfl) (fun _ => rfl) (fun _ => rfl) fun _ => rfl)
        fun registrations _ => ?_
      exact upholds_bind (distribute_upholds hsource fun _ => steady_query (fun _ => rfl)
        (fun _ => rfl) (fun _ => rfl) fun _ => rfl) fun _ _ => trivial
    · exact upholds_bind (saveTournament_upholds ht.1 ht.2) fun _ _ => trivial
  · exact upholds_bind (saveTournament_upholds ht.1 ht.2) fun _ _ => trivial

theorem cancelTournament_upholds (tournamentId : String) (now : Int) :
    (cancelTournament tournamentId now).Upholds (Steady (tournamentSource tournamentId) token funds)
      fun _ => True := by
  refine upholds_bind (demandTournament_upholds _) fun t ht => ?_
  refine upholds_bind (R := fun _ => True) (upholds_require fun _ => trivial) fun _ _ => ?_
  have hsource : t.source = tournamentSource tournamentId := congrArg tournamentSource ht.1
  rw [hsource]
  refine upholds_bind (demandEscrow_upholds _) fun escrow hown => ?_
  -- What follows the refund is only reached where the token is SOL.
  refine upholds_bind (refundEscrow_upholds hown.1) fun _ htoken => ?_
  refine upholds_bind (steady_query (fun _ => rfl) (fun _ => rfl) (fun _ => rfl) fun _ => rfl)
    fun registrations _ => ?_
  refine upholds_bind (upholds_each fun registration _ => ?_) fun _ _ => ?_
  · refine upholds_bind (unlockFunds_upholds (steady_ignoresWallets htoken) _) fun _ _ => ?_
    exact steady_query (fun _ => rfl) (fun _ => rfl) (fun _ => rfl) fun _ => rfl
  · exact upholds_bind (saveTournament_upholds ht.1 ht.2) fun _ _ => trivial

end Steady

/-! ### One call -/

section Steps

variable {C : Prop} {s : Db} {source : SourceId}

/-- A call about a match or tournament that is not there does nothing, and
    fails. -/
theorem absentMatch_ensures {α : Type} {matchId : String}
    (h : s.tokenOf (matchSource matchId) = none)
    (f : LoadedMatch → Service α) :
    ((getMatchById matchId).bind f).Ensures C s fun r t => t = s ∧ ∀ a, r ≠ .ok a := by
  refine ensures_bind (ensures_mono (getMatchById_ensures matchId s) fun r t ht => ?_)
  cases r with
  | error e => exact ⟨ht.1, fun _ h => nomatch h⟩
  | ok m =>
      have hsome : s.tokenOf (matchSource matchId) = some m.tokenType :=
        congrArg (Option.map Match.tokenType) ht.2.1
      exact nomatch h.symm.trans hsome

theorem absentTournament_ensures {α : Type} {tournamentId : String}
    (h : s.tokenOf (tournamentSource tournamentId) = none) (f : LoadedTournament → Service α) :
    ((getTournamentById tournamentId).bind f).Ensures C s fun r t => t = s ∧ ∀ a, r ≠ .ok a := by
  refine ensures_bind (ensures_mono (getTournamentById_ensures tournamentId s) fun r t ht => ?_)
  cases r with
  | error e => exact ⟨ht.1, fun _ h => nomatch h⟩
  | ok x =>
      have hsome : s.tokenOf (tournamentSource tournamentId) = some x.tokenType :=
        congrArg (Option.map Tournament.tokenType) ht.2.1
      exact nomatch h.symm.trans hsome

/-- A method whose checks fail does not go on. -/
theorem refused_ensures {α β : Type} {p : Service α} {f : α → Service β}
    (hp : p.Ensures C s fun r t => t = s ∧ ∀ a, r ≠ .ok a) :
    (p.bind f).Ensures C s fun r t => t = s ∧ ∀ a, r ≠ .ok a := by
  refine ensures_bind (ensures_mono hp fun r t ht => ?_)
  cases r with
  | error e => exact ⟨ht.1, fun _ h => nomatch h⟩
  | ok a => exact absurd rfl (ht.2 a)

/-- A call that is steady in every token keeps tokens apart. -/
theorem isolated_of_upholds {α : Type} {call : Call} {p : Service α} (hs : Apart s)
    (habout : call.about = some source)
    (habsent : s.tokenOf source = none → p.Ensures C s fun r t => t = s ∧ ∀ a, r ≠ .ok a)
    (hupholds : ∀ token, s.tokenOf source = some token →
      p.Ensures C s fun _ t => Steady source token s.balances t) :
    (discard p).Ensures C s fun _ t => TokensIsolated call s t ∧ Apart t := by
  refine discard_ensures ?_
  cases hsource : s.tokenOf source with
  | none =>
      -- What there is no row for the call refuses.
      refine ensures_mono (habsent hsource) fun _ t ht => ?_
      rcases ht with ⟨rfl, -⟩
      exact ⟨fun _ _ _ _ _ _ => rfl, hs⟩
  | some token =>
      refine ensures_mono (hupholds token hsource) fun _ t ht => ?_
      refine ⟨fun source' token' habout' htoken' hforeign playerId => ?_, ht.apart⟩
      obtain rfl := Option.some.inj (habout.symm.trans habout')
      obtain rfl := Option.some.inj (hsource.symm.trans htoken')
      exact ht.funds_eq hforeign playerId

theorem steady_ensures {α : Type} {token : SupportedToken} {p : Service α} (hs : Apart s)
    (hsource : s.tokenOf source = some token)
    (hp : p.Upholds (Steady source token s.balances) fun _ => True) :
    p.Ensures C s fun _ t => Steady source token s.balances t :=
  ensures_mono (ensures_of_upholds hp ⟨hs, hsource, fun _ _ => rfl⟩) fun _ _ ht => ht.1

/-- An entry that the wallet cannot pay stops at the lock. -/
theorem unpaid_ensures {α : Type} {token : SupportedToken} {entry : Entry α} (hs : Apart s)
    (hsource : s.tokenOf source = some token)
    (hpay : s.canPay entry.playerId entry.entryFee = false) :
    (enter entry).Ensures C s fun _ t => Steady source token s.balances t := by
  refine ensures_bind (ensures_mono (lockEntry_ensures entry s) fun r t ht => ?_)
  cases r with
  | ok wallet =>
      rcases ht with ⟨hfind, hcan, -⟩
      unfold Db.canPay at hpay
      rw [hfind, Option.any_some, hcan] at hpay
      exact nomatch hpay
  | error e =>
      rcases ht with ⟨txs, -, rfl⟩
      exact ⟨hs.frame rfl rfl rfl, hsource, fun _ _ => rfl⟩

theorem joinMatch_steady {request : JoinMatchRequest} {token : SupportedToken} (hs : Apart s)
    (hsource : s.tokenOf (matchSource request.matchId) = some token)
    (hpays : request.paysForeign s = false) :
    (joinMatch request).Ensures C s fun _ t =>
      Steady (matchSource request.matchId) token s.balances t := by
  by_cases hsol : token = .SOL
  · subst hsol
    exact steady_ensures hs hsource (joinMatch_upholds request)
  · refine ensures_bind (ensures_mono (checkJoin_ensures request s) fun r t ht => ?_)
    rcases ht with ⟨rfl, hok⟩
    cases r with
    | error e => exact ⟨hs, hsource, fun _ _ => rfl⟩
    | ok m =>
        rcases hok m rfl with ⟨hfind, hparticipants, hjoinable, hnew⟩
        have hid : m.matchId = request.matchId := Table.key_of_findOne hfind
        have hloaded : t.loadedMatch m.toMatch = m := by
          unfold Db.loadedMatch
          rw [hid, ← hparticipants]
        have htoken : t.tokenOf (matchSource request.matchId) = some m.tokenType :=
          congrArg (Option.map Match.tokenType) hfind
        have hother : m.tokenType ≠ .SOL := by
          rw [Option.some.inj (htoken.symm.trans hsource)]
          exact hsol
        -- Everything else the join asks for is there, so the money is not.
        unfold JoinMatchRequest.paysForeign at hpays
        rw [hfind, Option.any_some, hloaded, hjoinable, hnew] at hpays
        simp only [hother, ne_eq, not_false_eq_true, decide_true, Option.isNone_none,
          Bool.true_and] at hpays
        exact unpaid_ensures hs hsource hpays

theorem registerPlayer_steady {request : RegisterPlayerRequest} {token : SupportedToken}
    (hs : Apart s) (hsource : s.tokenOf (tournamentSource request.tournamentId) = some token)
    (hpays : request.paysForeign s = false) :
    (registerPlayer request).Ensures C s fun _ t =>
      Steady (tournamentSource request.tournamentId) token s.balances t := by
  by_cases hsol : token = .SOL
  · subst hsol
    exact steady_ensures hs hsource (registerPlayer_upholds request)
  · -- Past the checks the player pays, and here that must be in another token.
    refine ensures_bind (ensures_mono (checkRegistration_ensures request s) fun r t ht => ?_)
    rcases ht with ⟨rfl, hok⟩
    cases r with
    | error e => exact ⟨hs, hsource, fun _ _ => rfl⟩
    | ok x =>
        rcases hok x rfl with ⟨hfind, hregistrations, hopen, hnew⟩
        have hid : x.tournamentId = request.tournamentId := Table.key_of_findOne hfind
        have hloaded : t.loaded x.toTournament = x := by
          unfold Db.loaded
          rw [hid, ← hregistrations]
        have htoken : t.tokenOf (tournamentSource request.tournamentId) = some x.tokenType :=
          congrArg (Option.map Tournament.tokenType) hfind
        have hother : x.tokenType ≠ .SOL := by
          rw [Option.some.inj (htoken.symm.trans hsource)]
          exact hsol
        -- Which the hypothesis excludes, unless the fee cannot be paid.
        unfold RegisterPlayerRequest.paysForeign at hpays
        rw [hfind, Option.any_some, hloaded, hopen, hnew] at hpays
        simp only [hother, ne_eq, not_false_eq_true, decide_true, Option.isNone_none,
          Bool.true_and] at hpays
        exact unpaid_ensures hs hsource hpays

/-- A new match or tournament comes with an escrow as it is created. -/
theorem newRow_ensures {α : Type} {request : CreateEscrowRequest} {save : Service Unit} {a : α}
    (hs : Apart s)
    (hsave : ∀ u, Apart u → u.escrows.findOne request.source = some (newEscrow request) →
      save.Ensures C u fun _ t => Apart t) :
    ((createEscrow request).bind fun _ => save.bind fun _ => (Prog.done a : Service α)).Ensures C s
      fun _ t => Apart t := by
  refine ensures_bind (ensures_mono (createEscrow_ensures request s) fun r u hu => ?_)
  cases r with
  | error e =>
      rcases hu with ⟨rfl, -⟩
      exact hs
  | ok escrow =>
      rcases hu with ⟨-, -, rfl⟩
      -- The new escrow is as it is created, whatever its token.
      have hu : Apart (s.withEscrow (newEscrow request)) :=
        @Apart.saveEscrow _ _ hs (newEscrow request) (Or.inr rfl) rfl rfl rfl
      refine ensures_bind (ensures_mono (hsave _ hu (Table.findOne_save_self ..)) fun r t ht => ?_)
      cases r with
      | ok _ => exact ht
      | error e => exact ht

/-- Saving a row whose escrow is as it was created. -/
theorem Apart.newRow {t : Db} {token : SupportedToken} {escrow : EscrowAccount} (h : Apart s)
    (hescrow : s.escrows.findOne source = some escrow) (hstatus : escrow.status = .CREATED)
    (hescrows : t.escrows = s.escrows) (htoken : ∀ source', t.tokenOf source' =
      if source' = source then some token else s.tokenOf source') : Apart t := by
  intro source' token' h'
  rw [htoken] at h'
  rw [hescrows]
  by_cases hsource : source' = source
  · rw [hsource]
    exact ⟨escrow, hescrow, fun _ => hstatus⟩
  · rw [if_neg hsource] at h'
    exact h source' token' h'

theorem createMatch_apart (request : CreateMatchRequest) (hs : Apart s) :
    (createMatch request).Ensures C s fun _ t => Apart t := by
  refine ensures_bind (ensures_require (fun _ => ?_) fun _ => hs)
  refine ensures_bind (ensures_compute ?_)
  cases checkPrizeStrategy request with
  | error e => exact hs
  | ok _ =>
      refine newRow_ensures hs fun u hu hescrow => ensures_perform ?_ fun _ => hu
      exact hu.newRow hescrow rfl rfl (tokenOf_saveMatch u (newMatch request))

theorem createTournament_apart (request : CreateTournamentRequest) (hs : Apart s) :
    (createTournament request).Ensures C s fun _ t => Apart t := by
  refine ensures_bind (ensures_require (fun _ => ?_) fun _ => hs)
  refine ensures_bind (ensures_require (fun _ => ?_) fun _ => hs)
  refine newRow_ensures hs fun u hu hescrow => ensures_perform ?_ fun _ => hu
  exact hu.newRow hescrow rfl rfl (tokenOf_saveTournament u (newTournament request))

theorem apart_ignoresWallets : IgnoresWallets Apart :=
  fun _ _ _ _ hs => hs.frame rfl rfl rfl

/-- A call about no match or tournament has nothing to mix. -/
theorem isolated_of_apart {α : Type} {call : Call} {p : Service α} (habout : call.about = none)
    (hp : p.Ensures C s fun _ t => Apart t) :
    (discard p).Ensures C s fun _ t => TokensIsolated call s t ∧ Apart t :=
  discard_ensures (ensures_mono hp fun _ _ ht =>
    ⟨fun _ _ habout' => (nomatch habout.symm.trans habout'), ht⟩)

/-- A public call that does not pay for an entry in another token keeps tokens
    apart. -/
theorem call_isolated (call : Call) (hpublic : call.isPublic = true)
    (henters : call.entersForeign s = false) (hs : Apart s) :
    call.program.Ensures C s fun _ t => TokensIsolated call s t ∧ Apart t := by
  have hwallets : ∀ {α : Type} {p : Service α}, p.Upholds Apart (fun _ => True) →
      p.Ensures C s fun _ t => Apart t := fun hp =>
    ensures_mono (ensures_of_upholds hp hs) fun _ _ ht => ht.1
  -- The calls of wallets touch no match or tournament, and the others are about one
  -- source.
  cases call with
  | createWallet request =>
      exact isolated_of_apart rfl (hwallets (createWallet_upholds apart_ignoresWallets request))
  | deposit request =>
      exact isolated_of_apart rfl (hwallets (deposit_upholds apart_ignoresWallets request))
  | withdraw request =>
      exact isolated_of_apart rfl (hwallets (withdraw_upholds apart_ignoresWallets request))
  | createMatch request => exact isolated_of_apart rfl (createMatch_apart request hs)
  | createTournament request => exact isolated_of_apart rfl (createTournament_apart request hs)
  | joinMatch request =>
      exact isolated_of_upholds hs rfl (fun h => refused_ensures (absentMatch_ensures h _))
        fun token h => joinMatch_steady hs h henters
  | startMatch matchId now =>
      exact isolated_of_upholds hs rfl (fun h => absentMatch_ensures h _) fun token h =>
        steady_ensures hs h (startMatch_upholds matchId now)
  | submitResult request =>
      exact isolated_of_upholds hs rfl (fun h => absentMatch_ensures h _) fun token h =>
        steady_ensures hs h (submitResult_upholds request)
  | cancelMatch matchId now =>
      exact isolated_of_upholds hs rfl (fun h => absentMatch_ensures h _) fun token h =>
        steady_ensures hs h (cancelMatch_upholds matchId now)
  | openRegistration tournamentId =>
      exact isolated_of_upholds hs rfl (fun h => absentTournament_ensures h _) fun token h =>
        steady_ensures hs h (setStatus_upholds tournamentId _ _ _)
  | registerPlayer request =>
      exact isolated_of_upholds hs rfl (fun h => refused_ensures (absentTournament_ensures h _))
        fun token h => registerPlayer_steady hs h henters
  | closeRegistration tournamentId =>
      exact isolated_of_upholds hs rfl (fun h => absentTournament_ensures h _) fun token h =>
        steady_ensures hs h (setStatus_upholds tournamentId _ _ _)
  | generateBracket request =>
      exact isolated_of_upholds hs rfl (fun h => absentTournament_ensures h _) fun token h =>
        steady_ensures hs h (generateBracket_upholds request)
  | startTournament request =>
      exact isolated_of_upholds hs rfl (fun h => absentTournament_ensures h _) fun token h =>
        steady_ensures hs h (startTournament_upholds request)
  | advanceRound request =>
      exact isolated_of_upholds hs rfl (fun h => absentTournament_ensures h _) fun token h =>
        steady_ensures hs h (advanceRound_upholds request)
  | cancelTournament tournamentId now =>
      exact isolated_of_upholds hs rfl (fun h => absentTournament_ensures h _) fun token h =>
        steady_ensures hs h (cancelTournament_upholds tournamentId now)
  | createEscrow _ | depositToEscrow _ | lockEscrow _ | releaseEscrow _ | refundEscrow _
  | closeEscrow _ | lockFunds _ | unlockFunds _ | deductEntryFee _ _ => exact nomatch hpublic

end Steps

/-! ### Runs -/

/-- In every run of public calls in which nobody pays lamports for an entry in
    another token, no call moves lamports on account of another token, whatever
    accesses are refused. -/
theorem tokens_isolated (run : Run) (hpublic : run.Public)
    (henters : AlongRun Call.program (fun call s _ _ => call.entersForeign s = false) run
      Db.empty) :
    AlongRun Call.program (fun call s _ t => TokensIsolated call s t) run Db.empty := by
  refine (alongRun_invariant (C := True) (I := Apart)
    (P := fun call s => call.entersForeign s = false) (fun call hcall s hP hs => ?_)
    (fun _ _ => Or.inr trivial) apart_empty henters).1
  exact call_isolated call.1 (hpublic call hcall) hP hs

/-- A player with a deposit of lamports joins a match for one USDC. -/
def foreignJoin : Run :=
  Run.calmly (fundPlayers ["a"] 5000000 ++
    [.createMatch { hex := "m", entryFee := 1000000, tokenType := .USDC },
     .joinMatch { matchId := "m", playerId := "a" }])

/-- The join takes a million lamports for the million base units of the fee. -/
theorem not_tokens_isolated :
    foreignJoin.Public ∧
      ¬AlongRun Call.program (fun call s _ t => TokensIsolated call s t) foreignJoin Db.empty := by
  refine ⟨by decide +kernel, fun hall => ?_⟩
  have hjoin := hall.2.2.2.1 (matchSource "m") .USDC rfl (by decide +kernel) (by decide) "a"
  revert hjoin
  decide +kernel

/-- Two players with too few lamports for a match in USDC join one in lamports. The
    join of the other is refused, and so is calling that one off. -/
def lamportMatch : Run :=
  Run.calmly (fundPlayers ["a", "b"] 1500000 ++
    [.createMatch { hex := "m", entryFee := 2000000, tokenType := .USDC },
     .createMatch { hex := "n", entryFee := 1000000, tokenType := .SOL },
     .joinMatch { matchId := "n", playerId := "a" },
     .joinMatch { matchId := "m", playerId := "a" },
     .joinMatch { matchId := "n", playerId := "b" },
     .cancelMatch "m" 0])

theorem tokens_isolated_unfunded :
    AlongRun Call.program (fun call s _ t => TokensIsolated call s t) lamportMatch Db.empty ∧
      (Db.empty.after lamportMatch).balances "a" = some (500000, 0) := by
  refine ⟨tokens_isolated _ (by decide +kernel) ?_, by decide +kernel⟩
  refine ⟨?_, ?_, ?_, ?_, ?_, ?_, ?_, ?_, ?_, ?_, trivial⟩ <;> decide +kernel

end Esports

end SvmCourse
