import SvmCourse.Esports.Lifecycle
import SvmCourse.Esports.Starting
import SvmCourse.Esports.Submitting

/-!
# Rows and Escrows Agree

The rows of matches and tournaments and the rows of their escrows are written
by separate saves. `Db.event` reads the life of one match or tournament off the
store, and every calm call moves these lives on step by step, at most one at a
time, unless it goes astray.

Three calls go astray. A cancellation refunds the escrow and then fails, so the
row stays what it was; before a tournament has its bracket that is still a
step, since nothing is promised yet. A bracket is stored before the escrow is
locked, so if the escrow was refunded before, the tournament goes on without
one.

## Main definitions

* `Db.event`: The life of a match or tournament.
* `FollowsTable`: The documented table of statuses and escrows.
* `Call.strays`: The call goes astray.

## Theorems

* `call_livesMove`: Other calls move every life on.
* `call_strays`: A call that goes astray does so in one life.
* `sound_after`: After every calm run each life is in step or astray for good.
* `followsTable_iff`: The table holds throughout a run exactly when no call
  goes astray.
-/

namespace SvmCourse

namespace Esports

open Core Core.Prog

/-! ### Lives -/

/-- How far a match is, as its status says. -/
def MatchStatus.phase : MatchStatus → Phase
  | .CREATED => .fresh
  | .WAITING | .READY => .filling
  | .IN_PROGRESS => .playing
  | .SETTLED => .paid
  | .CANCELLED => .cancelled
  | .STARTING | .COMPLETED | .DISPUTED => .finished

/-- How far a tournament is, as its status says. -/
def TournamentStatus.phase : TournamentStatus → Phase
  | .DRAFT => .fresh
  | .REGISTRATION_OPEN | .REGISTRATION_CLOSED => .open_
  | .BRACKET_GENERATED | .IN_PROGRESS => .playing
  | .COMPLETED => .paid
  | .CANCELLED => .cancelled

/-- What a match offers to those who join it. -/
def Match.offer (m : Match) : Offer :=
  ⟨.MATCH, m.entryFee, m.platformFeePercent, m.prizeStrategy, m.prizeStructure⟩

/-- What a tournament offers to those who register. -/
def Tournament.offer (x : Tournament) : Offer :=
  ⟨.TOURNAMENT, x.entryFee, x.platformFeePercent, x.prizeStrategy, x.prizeStructure⟩

/-- What the row of a match says of its life. -/
def Match.eventTerms (m : Match) : EventTerms := ⟨m.status.phase, m.offer, m.prizePool⟩

/-- What the row of a tournament says of its life. -/
def Tournament.eventTerms (x : Tournament) : EventTerms := ⟨x.status.phase, x.offer, x.prizePool⟩

/-- There is no row. -/
def EventTerms.none : EventTerms := ⟨.absent, ⟨.MATCH, 0, 0, .CUSTOM, []⟩, 0⟩

/-- What the row of a match or tournament says of its life. -/
def Db.eventTerms (db : Db) (source : SourceId) : EventTerms :=
  match source.sourceType with
  | .MATCH => ((db.matchRows.findOne source.hex).map Match.eventTerms).getD .none
  | .TOURNAMENT =>
    ((db.tournaments.findOne source.hex).map Tournament.eventTerms).getD .none

/-- Who has paid to get in. -/
def Db.entrants (db : Db) (source : SourceId) : Nat :=
  match source.sourceType with
  | .MATCH => (db.participantsOf source.hex).length
  | .TOURNAMENT => (db.confirmed source.hex).length

/-- The life of a match or tournament, as the store has it. -/
def Db.event (db : Db) (source : SourceId) : Event where
  toEventTerms := db.eventTerms source
  escrow := (db.escrows.findOne source).map fun escrow => (escrow.status, escrow.currentBalance)
  entrants := db.entrants source
  deposited := db.deposited source

/-! ### The documented table -/

/-- What the table says of the escrow of a match. -/
def MatchTable (db : Db) (m : Match) : Prop :=
  let holds (status : EscrowStatus) : Prop :=
    ∃ escrow, db.escrows.findOne m.source = some escrow ∧ escrow.status = status ∧
      escrow.currentBalance = m.entryFee * (db.participantsOf m.matchId).length ∧
      escrow.currentBalance = m.prizePool
  match m.status with
  -- While players come in, and while they play, the escrow holds their fees.
  | .WAITING | .READY => holds .ACTIVE
  | .IN_PROGRESS => holds .LOCKED
  | .SETTLED => ∃ escrow, db.escrows.findOne m.source = some escrow ∧ escrow.status = .RELEASED
  | .CANCELLED => ∃ escrow, db.escrows.findOne m.source = some escrow ∧
      escrow.status = .REFUNDED ∧ escrow.currentBalance = 0
  -- The table says nothing of the others.
  | .CREATED | .STARTING | .COMPLETED | .DISPUTED => True

/-- What the table says of the escrow of a tournament. -/
def TournamentTable (db : Db) (x : Tournament) : Prop :=
  match x.status with
  | .BRACKET_GENERATED | .IN_PROGRESS => ∃ escrow, db.escrows.findOne x.source = some escrow ∧
      escrow.status = .LOCKED ∧
      escrow.currentBalance = x.entryFee * (db.confirmed x.tournamentId).length
  | .COMPLETED => ∃ escrow, db.escrows.findOne x.source = some escrow ∧ escrow.status = .RELEASED
  | .CANCELLED => ∃ escrow, db.escrows.findOne x.source = some escrow ∧ escrow.status = .REFUNDED
  | .DRAFT | .REGISTRATION_OPEN | .REGISTRATION_CLOSED => True

/-- Rows and escrows agree as documented. -/
structure FollowsTable (db : Db) : Prop where
  matchRows : ∀ m ∈ db.matchRows.rows, MatchTable db m
  tournaments : ∀ x ∈ db.tournaments.rows, TournamentTable db x

/-- The call goes astray: it cancels a match that has players, or a tournament
    that has its bracket, and refunds the escrow, or it generates a bracket for a tournament
    whose escrow cannot be locked. -/
def Call.strays (call : Call) (s : Db) : Prop :=
  match call with
  -- The refund goes through, and then unlocking the first player throws.
  | .cancelMatch matchId _ => ∃ m, s.matchRows.findOne matchId = some m ∧
      (m.status = .WAITING ∨ m.status = .READY ∨ m.status = .IN_PROGRESS) ∧
      s.refundable (matchSource matchId)
  | .cancelTournament tournamentId _ => ∃ x, s.tournaments.findOne tournamentId = some x ∧
      (x.status = .BRACKET_GENERATED ∨ x.status = .IN_PROGRESS) ∧
      s.refundable (tournamentSource tournamentId)
  -- The bracket is saved, and then its escrow cannot be locked.
  | .generateBracket request => ∃ x, s.tournaments.findOne request.tournamentId = some x ∧
      (s.loaded x).canGenerateBracket = true ∧
      x.minParticipants ≤ (s.registrations.find fun r =>
        r.tournamentId = request.tournamentId && r.isCounted).length ∧
      ∀ escrow, s.escrows.findOne (tournamentSource request.tournamentId) = some escrow →
        escrow.status ≠ .ACTIVE
  | _ => False

/-- The offer a call makes when it gets past the checks of its own. -/
def Call.Offers (Offered : Offer → Prop) : Call → Prop
  | .createMatch request => isValidEntryFee request.tokenType request.entryFee = true →
      Offered (newMatch request).offer
  | .createTournament request => isValidEntryFee request.tokenType request.entryFee = true →
      totalPercentage (tournamentPrizeStructure request) ≤ 100 →
        Offered (newTournament request).offer
  | _ => True

/-- Every life stays as it is or moves on. -/
def LivesMove (Offered : Offer → Prop) (s t : Db) : Prop :=
  ∀ source, Relation.ReflGen (Event.Step Offered) (s.event source) (t.event source)

/-! ### Reading lives -/

section Reading

variable {s t : Db} {source : SourceId} {Offered : Offer → Prop}

theorem event_congr (hterms : t.eventTerms source = s.eventTerms source)
    (hescrow : t.escrows.findOne source = s.escrows.findOne source)
    (hentrants : t.entrants source = s.entrants source)
    (hdeposited : t.deposited source = s.deposited source) : t.event source = s.event source := by
  unfold Db.event
  rw [hterms, hescrow, hentrants, hdeposited]

/-- What lives depend on, apart from the escrows. -/
def lifeView (db : Db) :=
  (db.matchRows, db.tournaments, db.participants.rows.map MatchParticipant.key,
    db.registrations.rows.map fun r => (r.key, r.status), db.deposits)

theorem entrants_eq (db : Db) (source : SourceId) : db.entrants source =
    match source.sourceType with
    | .MATCH => (db.participants.rows.map MatchParticipant.key).countP fun k => k.1 = source.hex
    | .TOURNAMENT => (db.registrations.rows.map fun r => (r.key, r.status)).countP fun r =>
        r.1.1 = source.hex && r.2 = .CONFIRMED := by
  unfold Db.entrants Db.participantsOf Db.confirmed Table.find
  cases source.sourceType with
  | MATCH =>
      simp only [List.countP_map, ← List.countP_eq_length_filter]
      rfl
  | TOURNAMENT =>
      simp only [List.countP_map, ← List.countP_eq_length_filter]
      rfl

theorem depositRows_eq (db : Db) (source : SourceId) :
    db.depositRows source = db.deposits.filter fun tx => tx.escrowId = source := by
  unfold Db.depositRows Db.deposits
  rw [List.filter_filter]

/-- Lives are read off the view and the escrow. -/
theorem event_of_view (hview : lifeView t = lifeView s)
    (hescrow : t.escrows.findOne source = s.escrows.findOne source) :
    t.event source = s.event source := by
  simp only [lifeView, Prod.mk.injEq] at hview
  rcases hview with ⟨hmatches, htournaments, hparticipants, hregistrations, hdeposits⟩
  refine event_congr ?_ hescrow ?_ ?_
  · unfold Db.eventTerms
    rw [hmatches, htournaments]
  · rw [entrants_eq, entrants_eq, hparticipants, hregistrations]
  · unfold Db.deposited
    rw [depositRows_eq, depositRows_eq, hdeposits]

theorem livesMove_refl (s : Db) : LivesMove Offered s s := fun _ => .refl

/-- A call that only moves money between wallets. -/
theorem livesMove_of_view (hview : lifeView t = lifeView s) (hescrows : t.escrows = s.escrows) :
    LivesMove Offered s t := by
  intro source
  rw [event_of_view hview (by rw [hescrows])]

/-- One life moves on, and the others stay. -/
theorem livesMove_at (source : SourceId)
    (hstep : Event.Step Offered (s.event source) (t.event source))
    (hframe : ∀ other, other ≠ source → t.event other = s.event other) : LivesMove Offered s t := by
  intro other
  by_cases hother : other = source
  · rw [hother]
    exact .single hstep
  · rw [hframe other hother]

/-- Reading the terms after the row of a match was saved. -/
theorem eventTerms_saveMatch {m : Match} (hmatches : t.matchRows = s.matchRows.save m)
    (htournaments : t.tournaments = s.tournaments) (source : SourceId) :
    t.eventTerms source = if source = m.source then m.eventTerms else s.eventTerms source := by
  rcases source with ⟨type, hex⟩
  unfold Db.eventTerms Match.source matchSource
  cases type with
  | MATCH =>
      by_cases hhex : hex = m.matchId
      · simp [hmatches, hhex]
      · simp [hmatches, hhex, Table.findOne_save]
  | TOURNAMENT => simp [htournaments]

theorem eventTerms_saveTournament {x : Tournament}
    (htournaments : t.tournaments = s.tournaments.save x) (hmatches : t.matchRows = s.matchRows)
    (source : SourceId) :
    t.eventTerms source = if source = x.source then x.eventTerms else s.eventTerms source := by
  rcases source with ⟨type, hex⟩
  unfold Db.eventTerms Tournament.source tournamentSource
  cases type with
  | MATCH => simp [hmatches]
  | TOURNAMENT =>
      by_cases hhex : hex = x.tournamentId
      · simp [htournaments, hhex]
      · simp [htournaments, hhex, Table.findOne_save]

theorem eventTerms_match {m : Match} (hfind : s.matchRows.findOne m.matchId = some m) :
    s.eventTerms m.source = m.eventTerms := by
  simp [Db.eventTerms, Match.source, matchSource, hfind]

theorem eventTerms_tournament {x : Tournament}
    (hfind : s.tournaments.findOne x.tournamentId = some x) :
    s.eventTerms x.source = x.eventTerms := by
  simp [Db.eventTerms, Tournament.source, tournamentSource, hfind]

theorem escrow_of_find {escrow : EscrowAccount} (hfind : s.escrows.findOne source = some escrow) :
    (s.event source).escrow = some (escrow.status, escrow.currentBalance) := by
  unfold Db.event
  rw [hfind, Option.map_some]

/-- Entrants are counted by what rows and updates leave alone. -/
theorem entrants_congr (hparticipants : t.participants.rows.map MatchParticipant.key =
      s.participants.rows.map MatchParticipant.key)
    (hregistrations : (t.registrations.rows.map fun r => (r.key, r.status)) =
      s.registrations.rows.map fun r => (r.key, r.status)) : t.entrants = s.entrants := by
  funext source
  rw [entrants_eq, entrants_eq, hparticipants, hregistrations]

/-- A player who is not in the match yet joins it. -/
theorem entrants_join {p : MatchParticipant}
    (hparticipants : t.participants = s.participants.save p)
    (hregistrations : t.registrations = s.registrations)
    (hnew : s.participants.findOne p.key = none) (source : SourceId) :
    t.entrants source = s.entrants source + if source = matchSource p.matchId then 1 else 0 := by
  rcases source with ⟨type, hex⟩
  unfold Db.entrants Db.participantsOf Db.confirmed matchSource
  -- A participant counts for the match joined, and for nothing else.
  cases type with
  | MATCH =>
      by_cases hhex : hex = p.matchId
      · subst hhex
        have hgrow := Table.find_save_new (p := fun q : MatchParticipant => q.matchId = p.matchId)
          hnew (decide_eq_true rfl)
        simp [hparticipants, hgrow]
      · have hsame := Table.find_save_of_not (t := s.participants) (r := p)
          (p := fun q : MatchParticipant => q.matchId = hex)
          fun v hv => decide_eq_false fun hid => ?_
        · simp [hparticipants, hsame, hhex]
        · exact hhex (hid.symm.trans (congrArg Prod.fst hv))
  | TOURNAMENT => simp [hregistrations]

/-- A player who is not registered yet registers. -/
theorem entrants_register {r : TournamentRegistration}
    (hregistrations : t.registrations = s.registrations.save r)
    (hparticipants : t.participants = s.participants) (hstatus : r.status = .CONFIRMED)
    (hnew : s.registrations.findOne r.key = none) (source : SourceId) :
    t.entrants source =
      s.entrants source + if source = tournamentSource r.tournamentId then 1 else 0 := by
  rcases source with ⟨type, hex⟩
  unfold Db.entrants Db.participantsOf Db.confirmed tournamentSource
  cases type with
  | MATCH => simp [hparticipants]
  | TOURNAMENT =>
      by_cases hhex : hex = r.tournamentId
      · -- The tournament has one confirmed row more.
        subst hhex
        have hgrow := Table.find_save_new (p := fun q : TournamentRegistration =>
          q.tournamentId = r.tournamentId && q.status = .CONFIRMED) hnew (by simp [hstatus])
        simp [hregistrations, hgrow]
      · -- The new row is of another tournament.
        have hsame := Table.find_save_of_not (t := s.registrations) (r := r)
          (p := fun q : TournamentRegistration => q.tournamentId = hex && q.status = .CONFIRMED)
          fun v hv => ?_
        · simp [hregistrations, hsame, hhex]
        · have hid : v.tournamentId = r.tournamentId := congrArg Prod.fst hv
          have hne : ¬v.tournamentId = hex := fun h => hhex (h.symm.trans hid)
          simp [hne]

end Reading

/-! ### Calls that stay on course -/

section Calls

variable {s t : Db} {Offered : Offer → Prop}

/-- Apart from one event, escrows, entrants and deposits are what they were, and
    for that one they are what the event says. -/
structure OnlyAt (s t : Db) (source : SourceId) (event : Event) : Prop where
  escrows : ∀ other, other ≠ source → t.escrows.findOne other = s.escrows.findOne other
  entrants : ∀ other, other ≠ source → t.entrants other = s.entrants other
  deposits : ∀ other, other ≠ source → t.deposited other = s.deposited other
  escrow : (t.event source).escrow = event.escrow
  counted : t.entrants source = event.entrants
  deposited : t.deposited source = event.deposited

theorem OnlyAt.event_eq {source : SourceId} {event : Event} (h : OnlyAt s t source event)
    (hterms : t.eventTerms source = event.toEventTerms) : t.event source = event := by
  have hescrow := h.escrow
  unfold Db.event at hescrow ⊢
  simp only at hescrow
  rw [hterms, hescrow, h.counted, h.deposited]

theorem OnlyAt.frame {source : SourceId} {event : Event} (h : OnlyAt s t source event)
    {other : SourceId} (hother : other ≠ source)
    (hterms : t.eventTerms other = s.eventTerms other) :
    t.event other = s.event other :=
  event_congr hterms (h.escrows other hother) (h.entrants other hother) (h.deposits other hother)

/-- A match moves on. -/
theorem livesMove_match {m : Match} {event : Event}
    (hstep : Event.Step Offered (s.event m.source) event)
    (hmatches : t.matchRows = s.matchRows.save m) (htournaments : t.tournaments = s.tournaments)
    (hterms : m.eventTerms = event.toEventTerms) (h : OnlyAt s t m.source event) :
    LivesMove Offered s t := by
  have hread := eventTerms_saveMatch hmatches htournaments
  have hevent : t.event m.source = event := h.event_eq (by rw [hread, if_pos rfl, hterms])
  refine livesMove_at m.source (hevent ▸ hstep) fun other hother => h.frame hother ?_
  rw [hread, if_neg hother]

/-- A tournament moves on or stays where it is. -/
theorem livesMove_tournament {x : Tournament} {event : Event}
    (hstep : Relation.ReflGen (Event.Step Offered) (s.event x.source) event)
    (htournaments : t.tournaments = s.tournaments.save x) (hmatches : t.matchRows = s.matchRows)
    (hterms : x.eventTerms = event.toEventTerms) (h : OnlyAt s t x.source event) :
    LivesMove Offered s t := by
  have hread := eventTerms_saveTournament htournaments hmatches
  have hevent : t.event x.source = event := h.event_eq (by rw [hread, if_pos rfl, hterms])
  intro other
  by_cases hother : other = x.source
  · rw [hother, hevent]
    exact hstep
  · rw [h.frame hother (by rw [hread, if_neg hother])]

/-- An event in which nobody entered and nothing was deposited. -/
theorem onlyAt_escrow (escrow : EscrowAccount) {event : Event} {source : SourceId}
    (hkey : escrow.escrowId = source) (hescrows : t.escrows = s.escrows.save escrow)
    (hentrants : t.entrants = s.entrants) (hdeposits : t.deposited = s.deposited)
    (hescrow : event.escrow = some (escrow.status, escrow.currentBalance))
    (hcounted : event.entrants = s.entrants source)
    (hdeposited : event.deposited = s.deposited source) : OnlyAt s t source event where
  escrows other hother := by
    rw [hescrows]
    exact Table.findOne_save_of_ne (hkey ▸ hother)
  entrants other _ := by rw [hentrants]
  deposits other _ := by rw [hdeposits]
  escrow := by
    have hfind : t.escrows.findOne source = some escrow := by
      rw [hescrows, ← hkey]
      exact Table.findOne_save_self s.escrows escrow
    rw [escrow_of_find hfind, hescrow]
  counted := by rw [hentrants, hcounted]
  deposited := by rw [hdeposits, hdeposited]

/-- An event whose row alone changed. -/
theorem onlyAt_row {event : Event} {source : SourceId} (hescrows : t.escrows = s.escrows)
    (hentrants : t.entrants = s.entrants) (hdeposits : t.deposited = s.deposited)
    (hescrow : event.escrow = (s.event source).escrow)
    (hcounted : event.entrants = s.entrants source)
    (hdeposited : event.deposited = s.deposited source) : OnlyAt s t source event where
  escrows other _ := by rw [hescrows]
  entrants other _ := by rw [hentrants]
  deposits other _ := by rw [hdeposits]
  escrow := by
    rw [hescrow]
    unfold Db.event
    rw [hescrows]
  counted := by rw [hentrants, hcounted]
  deposited := by rw [hdeposits, hdeposited]

theorem createWallet_livesMove (request : CreatePlayerWalletRequest) :
    (createWallet request).Ensures False s fun _ t => LivesMove Offered s t := by
  refine ensures_mono (createWallet_ensures request s) fun r t ht => ?_
  cases r with
  | ok wallet =>
      rcases ht with ⟨-, -, -, -, -, -, -, -, -, rfl⟩
      exact livesMove_of_view rfl rfl
  | error e =>
      obtain rfl : t = s := ht
      exact livesMove_refl t

theorem deposit_livesMove (request : DepositRequest) :
    (deposit request).Ensures False s fun _ t => LivesMove Offered s t :=
  moveFunds_calm (fun _ => livesMove_refl s) fun _ _ _ => livesMove_of_view rfl rfl

theorem withdraw_livesMove (request : WithdrawRequest) :
    (withdraw request).Ensures False s fun _ t => LivesMove Offered s t := by
  refine ensures_mono (withdraw_ensures request s) fun r t ht => ?_
  cases r with
  | ok tx =>
      rcases ht with ⟨wallet, paid, -, -, -, -, -, -, -, rfl⟩
      exact livesMove_of_view rfl rfl
  | error e =>
      rcases ht with rfl | ⟨wallet, hfind, hrefused⟩
      · exact livesMove_refl t
      · have hkey : wallet.playerId = request.playerId := Table.key_of_findOne hfind
        rcases withdrawalRefused_fundsMove (hkey ▸ hfind) hrefused with ⟨_, _, _, -, -, rfl⟩
        exact livesMove_of_view rfl rfl

theorem createMatch_livesMove (hs : Ledger s) (request : CreateMatchRequest)
    (hoffer : isValidEntryFee request.tokenType request.entryFee = true →
      Offered (newMatch request).offer) :
    (createMatch request).Ensures False s fun _ t => LivesMove Offered s t := by
  refine ensures_bind (ensures_require (fun hvalid => ?_) fun _ => livesMove_refl s)
  refine ensures_bind (ensures_compute ?_)
  cases checkPrizeStrategy request with
  | error e => exact livesMove_refl s
  | ok _ =>
  refine ensures_bind (createEscrow_calm (fun _ _ _ => livesMove_refl s) fun hnew => ?_)
  refine ensures_bind (ensures_perform ?_ False.elim)
  have habsent : s.eventTerms (newMatch request).source = .none := by
    have hnone : s.matchRows.findOne request.hex = none := by
      cases hfind : s.matchRows.findOne request.hex with
      | none => rfl
      | some m =>
          -- The row would have an escrow.
          rcases (hs.matchRows m (Table.mem_of_findOne hfind)).2 with ⟨e, he⟩
          have hkey : m.matchId = request.hex := Table.key_of_findOne hfind
          rw [Match.source, hkey] at he
          exact nomatch he.symm.trans hnew
    simp [Db.eventTerms, Match.source, matchSource, newMatch, hnone]
  refine livesMove_match (m := newMatch request) (.create _
    (congrArg EventTerms.phase habsent) (hoffer hvalid)) rfl rfl rfl ?_
  exact onlyAt_escrow (newEscrow _) rfl rfl rfl rfl rfl rfl rfl

/-- What the event is once an entry is booked. -/
theorem onlyAt_entry {α : Type} (entry : Entry α) {wallet : PlayerWallet} {escrow : EscrowAccount}
    (hpaid : EntryPaid s entry wallet escrow)
    (hescrows : t.escrows = s.escrows.save (escrow.afterDeposit entry.entryFee))
    (htxs : t.escrowTxs = s.escrowTxs ++ [depositTx (entryDeposit entry wallet)])
    (hentrants : ∀ other, t.entrants other =
      s.entrants other + if other = entry.source then 1 else 0)
    (hfee : (s.event entry.source).fee = entry.entryFee) (phase : Phase) :
    OnlyAt s t entry.source ((s.event entry.source).entered phase escrow.currentBalance) where
  escrows other hother := by
    have hkey : escrow.escrowId = entry.source := Table.key_of_findOne hpaid.findEscrow
    rw [hescrows]
    exact Table.findOne_save_of_ne (hkey ▸ hother)
  entrants other hother := by rw [hentrants, if_neg hother, Nat.add_zero]
  deposits other hother := by
    -- The one new row is a deposit into this escrow.
    have hsource : (entryDeposit entry wallet).escrowId = entry.source := rfl
    rw [deposited_append htxs, hsource, if_neg hother, Int.add_zero]
  escrow := by
    have hkey : escrow.escrowId = entry.source := Table.key_of_findOne hpaid.findEscrow
    have hfind : t.escrows.findOne entry.source = some (escrow.afterDeposit entry.entryFee) := by
      rw [hescrows, ← hkey]
      exact Table.findOne_save_self s.escrows (escrow.afterDeposit entry.entryFee)
    have hactive := afterDeposit_active hpaid.canDeposit entry.entryFee
    rw [escrow_of_find hfind, hactive, EscrowAccount.afterDeposit, ← hfee]
    rfl
  counted := by
    rw [hentrants, if_pos rfl]
    rfl
  deposited := by
    have hsource : (entryDeposit entry wallet).escrowId = entry.source := rfl
    rw [deposited_append htxs, if_pos hsource.symm]
    unfold Event.entered
    rw [hfee]
    rfl

/-- The escrow of an entry that is booked, as the event has it. -/
theorem EntryPaid.event_escrow {α : Type} {entry : Entry α} {wallet : PlayerWallet}
    {escrow : EscrowAccount} (hpaid : EntryPaid s entry wallet escrow) :
    (s.event entry.source).escrow = some (escrow.status, escrow.currentBalance) ∧
      (escrow.status = .CREATED ∨ escrow.status = .ACTIVE) := by
  constructor
  · exact escrow_of_find hpaid.findEscrow
  · have hcan := hpaid.canDeposit
    unfold EscrowAccount.canDeposit EscrowAccount.isActive at hcan
    simpa using hcan

theorem joinMatch_livesMove (hs : Ledger s) (request : JoinMatchRequest) :
    (joinMatch request).Ensures False s fun _ t => LivesMove Offered s t := by
  refine ensures_bind (ensures_mono (checkJoin_ensures request s) fun r t ht => ?_)
  rcases ht with ⟨rfl, hr⟩
  cases r with
  | error e => exact livesMove_refl t
  | ok m =>
  rcases hr m rfl with ⟨hfind, -, hjoinable, hnew⟩
  have hkey : m.matchId = request.matchId := Table.key_of_findOne hfind
  rw [← hkey] at hfind
  refine ensures_mono (enter_calm hs.locked_nonneg fun _ _ => ⟨_, rfl⟩) fun r u hu => ?_
  cases r with
  | error e =>
      -- An entry that fails moves the money of a wallet at most.
      rcases hu.1.fundsMove with ⟨_, _, _, -, -, rfl⟩
      exact livesMove_of_view rfl rfl
  | ok p =>
      rcases hu with ⟨wallet, escrow, hpaid, rfl⟩
      have hterms : (t.event (afterJoin m).source).toEventTerms = m.toMatch.eventTerms :=
        eventTerms_match hfind
      -- The first player finds a fresh match, and the others one that is filling.
      have hphase : m.status = .CREATED ∨ m.status = .WAITING := by
        unfold LoadedMatch.isJoinable at hjoinable
        rw [Bool.and_eq_true] at hjoinable
        simpa using hjoinable.1
      refine livesMove_match (m := afterJoin m) (.enter .filling escrow.status escrow.currentBalance
        (Or.inr ⟨?_, rfl⟩) hpaid.event_escrow.1 hpaid.event_escrow.2) rfl rfl ?_
        (onlyAt_entry (joinEntry request m) hpaid rfl rfl (fun other => ?_)
          (congrArg EventTerms.fee hterms) .filling)
      · refine (hphase.imp (fun h => ?_) fun h => ?_ :
          (t.event (afterJoin m).source).phase = .fresh ∨
          (t.event (afterJoin m).source).phase = .filling)
        · exact (congrArg EventTerms.phase hterms).trans (congrArg MatchStatus.phase h)
        · exact (congrArg EventTerms.phase hterms).trans (congrArg MatchStatus.phase h)
      · -- Whether the match is ready now or waits, it is filling.
        have hphase' : (afterJoin m).status.phase = .filling := by
          unfold afterJoin
          by_cases hready : m.isReady = true
          · simp [hready, MatchStatus.phase]
          · rcases hphase with hphase | hphase
            · simp [hready, hphase, MatchStatus.phase]
            · simp [hready, hphase, MatchStatus.phase]
        unfold Match.eventTerms Event.entered
        rw [hphase', hterms]
        rfl
      · refine entrants_join (p := newParticipant m request wallet) ?_ ?_ hnew other
        · rfl
        · rfl

theorem startMatch_livesMove (matchId : String) (now : Int) :
    (startMatch matchId now).Ensures False s fun _ t => LivesMove Offered s t := by
  refine ensures_bind (ensures_mono (getMatchById_ensures matchId s) fun r t ht => ?_)
  rcases ht with ⟨rfl, hr⟩
  cases r with
  | error e => exact livesMove_refl t
  | ok m =>
  have hkey : m.matchId = matchId := Table.key_of_findOne hr.1
  have hfind := hr.1
  rw [← hkey] at hfind
  refine ensures_bind (ensures_require (fun hstart => ?_) fun _ => livesMove_refl t)
  -- Up to here nothing is written.
  refine lockBySource_ensures (matchSource matchId) t (fun found hescrow hactive => ?_)
    fun _ e => livesMove_refl t
  have hrow : t.escrows.findOne m.source = some found := by
    unfold Match.source
    rw [hkey]
    exact hescrow
  have hsource : found.escrowId = m.source := Table.key_of_findOne hrow
  have hready : m.status = .READY := by
    unfold LoadedMatch.canStart at hstart
    rw [Bool.and_eq_true] at hstart
    exact of_decide_eq_true hstart.1
  have hterms : (t.event m.source).toEventTerms = m.toMatch.eventTerms :=
    eventTerms_match hfind
  have hheld := escrow_of_find hrow
  rw [hactive] at hheld
  -- The escrow is locked, so the rows of the match are saved as well.
  refine ensures_bind (ensures_perform ?_ False.elim)
  refine ensures_bind (ensures_perform ?_ False.elim)
  refine livesMove_match (m := { m.toMatch with status := .IN_PROGRESS, startedAt := some now })
    (.lock found.currentBalance (Or.inr ?_) hheld) rfl rfl ?_
    (onlyAt_escrow { found with status := .LOCKED } hsource rfl (entrants_congr ?_ rfl) rfl rfl
      rfl rfl)
  · exact (congrArg EventTerms.phase hterms).trans (congrArg MatchStatus.phase hready)
  · exact (congrArg (fun terms : EventTerms => { terms with phase := .playing }) hterms).symm
  · -- The participants that play are those that joined.
    have hkeys : ∀ q : Table MatchParticipant.key,
        (q.update (fun p => p.matchId = m.matchId ∧ p.status = .JOINED)
          (fun p => { p with status := .PLAYING }) fun _ => rfl).rows.map MatchParticipant.key =
            q.rows.map MatchParticipant.key := fun q => Table.map_update fun _ _ _ => rfl
    exact hkeys t.participants

/-- What the escrow is once a payout has released it. -/
theorem Released.escrow {payout : Payout} (h : Released payout s t) : ∃ escrow total fee,
    s.escrows.findOne payout.source = some escrow ∧ escrow.status = .LOCKED ∧
      t.escrows = s.escrows.save (escrow.afterRelease total fee) := by
  rcases h with ⟨escrow, fee, dists, hready, hescrows⟩
  have hcan := hready.canRelease
  unfold EscrowAccount.canRelease at hcan
  rw [Bool.and_eq_true] at hcan
  exact ⟨escrow, _, fee, hready.find, of_decide_eq_true hcan.1, hescrows⟩

theorem ResultRecorded.entrants {request : SubmitResultRequest} {m row : Match}
    (h : ResultRecorded s t request m row) : t.entrants = s.entrants := by
  refine entrants_congr ?_ (by rw [h.registrations])
  have hkeys := congrArg (List.map MatchParticipant.key) h.participants
  rw [List.map_map, List.map_map] at hkeys
  refine hkeys.trans (List.map_congr_left fun p _ => ?_)
  simp only [Function.comp_apply, MatchParticipant.unpaid, rowsFinished]
  by_cases hmatch : p.matchId = request.matchId
  · rw [if_pos hmatch]
    exact finished_key _ p
  · rw [if_neg hmatch]
    rfl

theorem ResultRecorded.deposited {request : SubmitResultRequest} {m row : Match}
    (h : ResultRecorded s t request m row) : t.deposited = s.deposited := by
  funext source
  unfold Db.deposited
  rw [depositRows_eq, depositRows_eq, h.deposits]

theorem submitResult_livesMove (request : SubmitResultRequest) :
    (submitResult request).Ensures False s fun _ t => LivesMove Offered s t := by
  refine ensures_mono (submitResult_calm request s) fun r t ht => ?_
  rcases ht with ⟨-, rfl, -⟩ | ⟨m, hsubmit, hr⟩
  · exact livesMove_refl t
  have hkey : m.matchId = request.matchId := Table.key_of_findOne hsubmit.find
  have hfind := hsubmit.find
  rw [← hkey] at hfind
  have hterms : (s.event m.source).toEventTerms = m.eventTerms := eventTerms_match hfind
  have hphase : (s.event m.source).phase = .playing :=
    (congrArg EventTerms.phase hterms).trans (congrArg MatchStatus.phase hsubmit.playing)
  cases r with
  | ok _ =>
      -- The prizes are paid, so the match is settled.
      rcases hr with ⟨hreleased, hrecorded⟩
      rcases hreleased.escrow with ⟨escrow, total, fee, hescrow, hlocked, hescrows⟩
      have hsource : escrow.escrowId = m.source := Table.key_of_findOne hescrow
      have hheld := escrow_of_find hescrow
      rw [hlocked] at hheld
      refine livesMove_match (m := { afterResult m request with status := .SETTLED })
        (.pay escrow.currentBalance (escrow.afterRelease total fee).currentBalance hphase hheld)
        hrecorded.matchRows
        hrecorded.tournaments ?_ (onlyAt_escrow (escrow.afterRelease total fee) hsource hescrows
          hrecorded.entrants hrecorded.deposited rfl rfl rfl)
      exact (congrArg (fun terms : EventTerms => { terms with phase := .paid }) hterms).symm
  | error e =>
      -- The result is recorded, and the escrow still has the money.
      rcases hr with ⟨hescrows, -, hrecorded⟩
      refine livesMove_match (m := afterResult m request) (.finish hphase) hrecorded.matchRows
        hrecorded.tournaments ?_ (onlyAt_row hescrows hrecorded.entrants hrecorded.deposited
          rfl rfl rfl)
      exact (congrArg (fun terms : EventTerms => { terms with phase := .finished }) hterms).symm

/-! ### Tournaments -/

theorem createTournament_livesMove (hs : Ledger s) (request : CreateTournamentRequest)
    (hoffer : isValidEntryFee request.tokenType request.entryFee = true →
      totalPercentage (tournamentPrizeStructure request) ≤ 100 →
        Offered (newTournament request).offer) :
    (createTournament request).Ensures False s fun _ t => LivesMove Offered s t := by
  refine ensures_bind (ensures_require (fun hvalid => ?_) fun _ => livesMove_refl s)
  refine ensures_bind (ensures_require (fun htotal => ?_) fun _ => livesMove_refl s)
  refine ensures_bind (createEscrow_calm (fun _ _ _ => livesMove_refl s) fun hnew => ?_)
  refine ensures_bind (ensures_perform ?_ False.elim)
  have habsent : s.eventTerms (newTournament request).source = .none := by
    have hnone : s.tournaments.findOne request.hex = none := by
      cases hfind : s.tournaments.findOne request.hex with
      | none => rfl
      | some x =>
          -- The row would have an escrow.
          rcases (hs.tournaments x (Table.mem_of_findOne hfind)).2.1 with ⟨e, he⟩
          have hkey : x.tournamentId = request.hex := Table.key_of_findOne hfind
          rw [Tournament.source, hkey] at he
          exact nomatch he.symm.trans hnew
    simp [Db.eventTerms, Tournament.source, tournamentSource, newTournament, hnone]
  refine livesMove_tournament (x := newTournament request) (.single (.create _
    (congrArg EventTerms.phase habsent) (hoffer hvalid (of_decide_eq_true htotal)))) rfl rfl rfl ?_
  exact onlyAt_escrow (newEscrow _) rfl rfl rfl rfl rfl rfl rfl

/-- A row that is saved again in the same phase. -/
theorem saveTournament_livesMove {x : Tournament} (x' : Tournament)
    (hfind : s.tournaments.findOne x.tournamentId = some x)
    (hkey : x'.tournamentId = x.tournamentId) (hterms : x'.eventTerms = x.eventTerms)
    (htournaments : t.tournaments = s.tournaments.save x') (hmatches : t.matchRows = s.matchRows)
    (hescrows : t.escrows = s.escrows) (hentrants : t.entrants = s.entrants)
    (hdeposits : t.deposited = s.deposited) : LivesMove Offered s t := by
  have hsource : x'.source = x.source := congrArg tournamentSource hkey
  refine livesMove_tournament (x := x') .refl htournaments hmatches ?_
    (onlyAt_row hescrows hentrants hdeposits rfl rfl rfl)
  rw [hterms, hsource]
  exact (eventTerms_tournament hfind).symm

/-- A method that reads its tournament first. -/
theorem livesMove_readTournament {β : Type} {tournamentId : String}
    {f : LoadedTournament → Service β}
    (hf : ∀ x, s.tournaments.findOne x.tournamentId = some x.toTournament →
      (f x).Ensures False s fun _ t => LivesMove Offered s t) :
    ((getTournamentById tournamentId).bind f).Ensures False s
      fun _ t => LivesMove Offered s t := by
  refine ensures_bind (ensures_mono (getTournamentById_ensures tournamentId s) fun r t ht => ?_)
  rcases ht with ⟨rfl, hr⟩
  cases r with
  | error e => exact livesMove_refl t
  | ok x =>
      have hkey : x.tournamentId = tournamentId := Table.key_of_findOne hr.1
      exact hf x (hkey.symm ▸ hr.1)

theorem openRegistration_livesMove (tournamentId : String) :
    (openRegistration tournamentId).Ensures False s fun _ t => LivesMove Offered s t := by
  refine livesMove_readTournament fun x hfind => ?_
  refine ensures_bind (ensures_require (fun hdraft => ?_) fun _ => livesMove_refl s)
  refine ensures_bind (ensures_perform ?_ False.elim)
  have hterms : (s.event x.source).toEventTerms = x.toTournament.eventTerms :=
    eventTerms_tournament hfind
  have hphase : (s.event x.source).phase = .fresh := (congrArg EventTerms.phase hterms).trans
    (congrArg TournamentStatus.phase (of_decide_eq_true hdraft))
  refine livesMove_tournament (x := { x.toTournament with status := .REGISTRATION_OPEN })
    (.single (.open_ hphase)) rfl rfl ?_ (onlyAt_row rfl rfl rfl rfl rfl rfl)
  exact (congrArg (fun terms : EventTerms => { terms with phase := .open_ }) hterms).symm

theorem closeRegistration_livesMove (tournamentId : String) :
    (closeRegistration tournamentId).Ensures False s fun _ t => LivesMove Offered s t := by
  refine livesMove_readTournament fun x hfind => ?_
  refine ensures_bind (ensures_require (fun hopen => ?_) fun _ => livesMove_refl s)
  refine ensures_bind (ensures_perform ?_ False.elim)
  have hphase : x.status.phase = .open_ :=
    congrArg TournamentStatus.phase (of_decide_eq_true hopen)
  refine saveTournament_livesMove { x.toTournament with status := .REGISTRATION_CLOSED }
    hfind rfl ?_ rfl rfl rfl rfl rfl
  unfold Tournament.eventTerms
  rw [hphase]
  rfl

theorem registerPlayer_livesMove (hs : Ledger s) (request : RegisterPlayerRequest) :
    (registerPlayer request).Ensures False s fun _ t => LivesMove Offered s t := by
  refine ensures_bind (ensures_mono (checkRegistration_ensures request s) fun r t ht => ?_)
  rcases ht with ⟨rfl, hr⟩
  cases r with
  | error e => exact livesMove_refl t
  | ok x =>
  rcases hr x rfl with ⟨hfind, -, hopen, hnew⟩
  have hkey : x.tournamentId = request.tournamentId := Table.key_of_findOne hfind
  rw [← hkey] at hfind
  refine ensures_mono (enter_calm hs.locked_nonneg fun _ _ => ⟨_, rfl⟩) fun r u hu => ?_
  cases r with
  | error e =>
      -- An entry that fails moves the money of a wallet at most.
      rcases hu.1.fundsMove with ⟨_, _, _, -, -, rfl⟩
      exact livesMove_of_view rfl rfl
  | ok p =>
      rcases hu with ⟨wallet, escrow, hpaid, rfl⟩
      have hterms : (t.event (afterRegistration x).source).toEventTerms =
          x.toTournament.eventTerms := eventTerms_tournament hfind
      -- Registration does not change the status.
      have hphase : x.status.phase = .open_ := by
        unfold LoadedTournament.isRegistrationOpen at hopen
        simp only [Bool.and_eq_true, decide_eq_true_eq] at hopen
        exact congrArg TournamentStatus.phase hopen.1.1.1
      refine livesMove_tournament (x := afterRegistration x) (.single (.enter .open_ escrow.status
        escrow.currentBalance (Or.inl ⟨?_, rfl⟩) hpaid.event_escrow.1 hpaid.event_escrow.2)) rfl rfl
        ?_ (onlyAt_entry (registrationEntry request x) hpaid rfl rfl (fun other => ?_)
          (congrArg EventTerms.fee hterms) .open_)
      · exact (congrArg EventTerms.phase hterms).trans hphase
      · unfold Event.entered
        rw [hterms]
        exact congrArg (fun phase => EventTerms.mk phase x.offer (x.prizePool + x.entryFee)) hphase
      · refine entrants_register (r := newRegistration x request wallet) ?_ ?_ rfl hnew other
        · rfl
        · rfl

/-- A rewrite of registrations that leaves key and status alone. -/
def Rewrites (body : Service Unit) : Prop :=
  ∀ t, ∃ rs : Table TournamentRegistration.key,
    body.eval t = (.ok (), { t with registrations := rs }) ∧
    (rs.rows.map fun r => (r.key, r.status)) = t.registrations.rows.map fun r => (r.key, r.status)

theorem seedRegistration_rewrites (seeded : TournamentRegistration × Nat) :
    Rewrites (seedRegistration seeded) :=
  fun _ => ⟨_, rfl, Table.map_update fun _ _ _ => rfl⟩

theorem placeRegistration_rewrites (tournamentId : String) (placement : String × ℚ) :
    Rewrites (placeRegistration tournamentId placement) :=
  fun _ => ⟨_, rfl, Table.map_update fun _ _ _ => rfl⟩

theorem rewriteAll_view {β : Type} (xs : List β) {body : β → Service Unit}
    (hbody : ∀ x, Rewrites (body x)) (s : Db) :
    (each xs body).Ensures False s fun r t => r = .ok () ∧ lifeView t = lifeView s ∧
      t.escrows = s.escrows := by
  induction xs generalizing s with
  | nil => exact ⟨rfl, rfl, rfl⟩
  | cons x xs ih =>
      rcases hbody x s with ⟨rs, heval, hrows⟩
      refine ensures_bind ?_
      rw [ensures_false_iff, heval]
      refine ensures_mono (ih { s with registrations := rs }) fun r t ht => ?_
      refine ⟨ht.1, ht.2.1.trans ?_, ht.2.2⟩
      unfold lifeView
      rw [hrows]
      rfl

theorem view_entrants (h : lifeView t = lifeView s) : t.entrants = s.entrants := by
  simp only [lifeView, Prod.mk.injEq] at h
  exact entrants_congr h.2.2.1 h.2.2.2.1

theorem view_deposited (h : lifeView t = lifeView s) : t.deposited = s.deposited := by
  simp only [lifeView, Prod.mk.injEq] at h
  funext source
  unfold Db.deposited
  rw [depositRows_eq, depositRows_eq, h.2.2.2.2]

/-- The tournament gets a bracket when the call passes its checks. -/
structure Bracketable (s : Db) (request : GenerateBracketRequest) (x : Tournament) : Prop where
  find : s.tournaments.findOne request.tournamentId = some x
  canGenerate : (s.loaded x).canGenerateBracket = true
  enough : x.minParticipants ≤ (s.registrations.find fun r =>
    r.tournamentId = request.tournamentId && r.isCounted).length

/-- The tournament with its bracket. -/
def withBracket (x : Tournament) (bracket : Bracket) : Tournament :=
  { x with bracket := some bracket, status := .BRACKET_GENERATED }

/-- The bracket is stored whether the escrow can be locked or not. -/
theorem generateBracket_calm (request : GenerateBracketRequest) (s : Db) :
    (generateBracket request).Ensures False s fun r t =>
      (t = s ∧ ∀ x, ¬Bracketable s request x) ∨
      ∃ x bracket, Bracketable s request x ∧
        t.tournaments = s.tournaments.save (withBracket x bracket) ∧ t.matchRows = s.matchRows ∧
        t.entrants = s.entrants ∧ t.deposited = s.deposited ∧ match r with
          | .ok _ => ∃ escrow, s.escrows.findOne x.source = some escrow ∧ escrow.status = .ACTIVE ∧
              t.escrows = s.escrows.save { escrow with status := .LOCKED }
          | .error _ => t.escrows = s.escrows ∧
              ∀ escrow, s.escrows.findOne x.source = some escrow → escrow.status ≠ .ACTIVE := by
  refine ensures_bind (ensures_mono (getTournamentById_ensures request.tournamentId s)
    fun r t ht => ?_)
  rcases ht with ⟨rfl, hr⟩
  cases r with
  | error e =>
      refine Or.inl ⟨rfl, fun x hx => ?_⟩
      exact nomatch hx.find.symm.trans (hr.resolve_left id)
  | ok x =>
  have hkey : x.tournamentId = request.tournamentId := Table.key_of_findOne hr.1
  have hloaded : t.loaded x.toTournament = x := by
    unfold Db.loaded
    rw [hkey, ← hr.2]
  have honly : ∀ x', Bracketable t request x' → x' = x.toTournament :=
    fun x' hx' => Option.some.inj (hx'.find.symm.trans hr.1)
  -- The two checks refuse exactly what is not bracketable.
  refine ensures_bind (ensures_require (fun hcan => ?_) fun hno => ?_)
  swap
  · refine Or.inl ⟨rfl, fun x' hx' => ?_⟩
    have hcan := hx'.canGenerate
    rw [honly x' hx', hloaded, hno] at hcan
    exact nomatch hcan
  refine ensures_bind (ensures_perform ?_ False.elim)
  refine ensures_bind (ensures_require (fun henough => ?_) fun hno => ?_)
  swap
  · refine Or.inl ⟨rfl, fun x' hx' => ?_⟩
    have henough := hx'.enough
    rw [honly x' hx', ← hkey] at henough
    exact of_decide_eq_false hno henough
  have hpasses : Bracketable t request x.toTournament := by
    refine ⟨hr.1, hloaded.symm ▸ hcan, ?_⟩
    rw [← hkey]
    exact of_decide_eq_true henough
  refine ensures_bind (ensures_mono (rewriteAll_view _ seedRegistration_rewrites _)
    fun r u hu => ?_)
  rcases hu with ⟨rfl, hview, hescrows⟩
  refine ensures_bind (ensures_perform ?_ False.elim)
  have hentrants := view_entrants hview
  have hdeposits := view_deposited hview
  simp only [lifeView, Prod.mk.injEq] at hview
  have hsaved : ∀ x', u.tournaments.save x' = t.tournaments.save x' := by
    intro x'
    rw [hview.2.1]
  -- What is left is to find the escrow and to lock it.
  refine lockBySource_ensures x.source _ (fun escrow hfound hactive => ?_) fun hrefused e => ?_
  · have hsame : t.escrows.findOne x.source = some escrow := hescrows ▸ hfound
    refine Or.inr ⟨x.toTournament, _, hpasses, hsaved (withBracket _ _), hview.1, hentrants,
      hdeposits, escrow, hsame, hactive, ?_⟩
    exact congrArg (fun escrows => escrows.save { escrow with status := .LOCKED }) hescrows
  · refine Or.inr ⟨x.toTournament, _, hpasses, hsaved (withBracket _ _), hview.1, hentrants,
      hdeposits, hescrows, fun escrow hfound => ?_⟩
    have hsame : u.escrows.findOne x.source = some escrow := hescrows.symm ▸ hfound
    exact hrefused.resolve_left id escrow hsame

theorem generateBracket_livesMove (request : GenerateBracketRequest)
    (hcourse : ¬(Call.generateBracket request).strays s) :
    (generateBracket request).Ensures False s fun _ t => LivesMove Offered s t := by
  refine ensures_mono (generateBracket_calm request s) fun r t ht => ?_
  rcases ht with ⟨rfl, -⟩ | ⟨x, bracket, hpasses, htournaments, hmatches, hentrants, hdeposits, hr⟩
  · exact livesMove_refl t
  have hkey : x.tournamentId = request.tournamentId := Table.key_of_findOne hpasses.find
  have hfind := hpasses.find
  rw [← hkey] at hfind
  cases r with
  | error e =>
      -- A bracket without a locked escrow is what goes astray.
      refine absurd ⟨x, hpasses.find, hpasses.canGenerate, hpasses.enough, fun escrow hescrow => ?_⟩
        hcourse
      rw [← hkey] at hescrow
      exact hr.2 escrow hescrow
  | ok _ =>
      -- The bracket is stored and the escrow is locked, which is one step.
      rcases hr with ⟨escrow, hescrow, hactive, hescrows⟩
      have hterms : (s.event x.source).toEventTerms = x.eventTerms := eventTerms_tournament hfind
      have hclosed : x.status = .REGISTRATION_CLOSED := by
        have hcan := hpasses.canGenerate
        unfold LoadedTournament.canGenerateBracket at hcan
        rw [Bool.and_eq_true] at hcan
        exact of_decide_eq_true hcan.1
      have hphase : (s.event x.source).phase = .open_ :=
        (congrArg EventTerms.phase hterms).trans (congrArg TournamentStatus.phase hclosed)
      have hheld := escrow_of_find hescrow
      rw [hactive] at hheld
      have hsource : escrow.escrowId = x.source := Table.key_of_findOne hescrow
      refine livesMove_tournament (x := withBracket x bracket)
        (.single (.lock escrow.currentBalance (Or.inl hphase) hheld)) htournaments hmatches ?_
        (onlyAt_escrow { escrow with status := .LOCKED } hsource hescrows hentrants
          hdeposits rfl rfl
          rfl)
      exact (congrArg (fun terms : EventTerms => { terms with phase := .playing }) hterms).symm

theorem startTournament_livesMove (request : StartTournamentRequest) :
    (startTournament request).Ensures False s fun _ t => LivesMove Offered s t := by
  refine livesMove_readTournament fun x hfind => ?_
  refine ensures_bind (ensures_require (fun hgenerated => ?_) fun _ => livesMove_refl s)
  -- Creating the matches is rejected or not needed.
  refine ensures_bind (ensures_mono (ensures_each (I := fun u => u = s) rfl
    fun pairing _ u hu => ?_) fun r u hu => ?_)
  · exact ensures_mono (createPairing_ensures _ pairing) fun _ v hv => hv.1.trans hu
  · obtain rfl : u = s := hu
    cases r with
    | error e => exact livesMove_refl u
    | ok _ =>
        refine ensures_bind (ensures_perform ?_ False.elim)
        refine saveTournament_livesMove { x.toTournament with status := .IN_PROGRESS } hfind
          rfl ?_ rfl
          rfl rfl rfl rfl
        unfold Tournament.eventTerms
        rw [of_decide_eq_true hgenerated]
        rfl

theorem tournamentPayout_keeps (x : Tournament) (registrations : List TournamentRegistration) :
    PayoutKeeps (tournamentPayout x registrations) lifeView where
  credit dist s := by
    refine ensures_bind (moveFunds_calm (fun _ => ⟨rfl, rfl⟩) fun _ _ _ => ?_)
    refine ensures_perform ⟨?_, rfl⟩ False.elim
    -- The prize and the placement are not part of what is looked at.
    have hrows : ∀ q : Table TournamentRegistration.key,
        (q.update (fun r => r.key = (x.tournamentId, dist.playerId))
          (fun r => { r with prizeWon := dist.amount, finalPlacement := some dist.placement })
            fun _ => rfl).rows.map (fun r => (r.key, r.status)) =
          q.rows.map fun r => (r.key, r.status) := fun q => Table.map_update fun _ _ _ => rfl
    exact congrArg (fun rows => (s.matchRows, s.tournaments,
      s.participants.rows.map MatchParticipant.key, rows, s.deposits)) (hrows s.registrations)
  release s txs escrow htxs := by
    have hdeposits := deposits_append (s := s) htxs
    exact congrArg (fun deposits => (s.matchRows, s.tournaments,
      s.participants.rows.map MatchParticipant.key,
      s.registrations.rows.map (fun r => (r.key, r.status)), deposits)) hdeposits
  prizes _ _ := rfl

/-- The registrations of a tournament once the placements of its bracket are
    written. -/
def Db.placedRegistrations (db : Db) (x : Tournament) : List TournamentRegistration :=
  ((calculateFinalPlacements x).eval db).2.registrations.find fun r =>
    r.tournamentId = x.tournamentId

theorem completeTournament_calm (x : Tournament) (s : Db) :
    (completeTournament x).Ensures False s fun r t => lifeView t = lifeView s ∧ match r with
      | .ok _ => Released (tournamentPayout x (s.placedRegistrations x)) s t
      | .error _ => t.escrows = s.escrows ∧
          PayoutRefused (tournamentPayout x (s.placedRegistrations x)) s := by
  refine ensures_bind (ensures_perform ?_ False.elim)
  -- Writing the places changes nothing that lives depend on.
  have hplaced := rewriteAll_view (finalPlacements (x.bracket.getD ⟨[]⟩)).rows
    (placeRegistration_rewrites x.tournamentId) s
  rw [ensures_false_iff] at hplaced
  rcases heval : (calculateFinalPlacements x).eval s with ⟨r, u⟩
  have heval' : (each (finalPlacements (x.bracket.getD ⟨[]⟩)).rows
      (placeRegistration x.tournamentId)).eval s = (r, u) := heval
  rw [heval'] at hplaced
  rcases hplaced with ⟨rfl, hview, hescrows⟩
  refine ensures_bind ?_
  rw [ensures_false_iff, heval]
  refine ensures_bind (ensures_perform ?_ False.elim)
  have hregistrations : (u.registrations.find fun r => r.tournamentId = x.tournamentId) =
      s.placedRegistrations x := by
    unfold Db.placedRegistrations
    rw [heval]
  rw [hregistrations]
  -- Then the prizes are paid by the rows that were just written.
  refine ensures_bind (ensures_mono (distribute_calm (tournamentPayout_keeps x _) u)
    fun r t ht => ?_)
  cases r with
  | error e => exact ⟨ht.1.trans hview, ht.2.1.trans hescrows, ht.2.2.congr hescrows⟩
  | ok record =>
      rcases ht.2 with ⟨escrow, fee, dists, hready, hreleased⟩
      refine ⟨ht.1.trans hview, escrow, fee, dists, hready.congr hescrows, hreleased.trans ?_⟩
      rw [hescrows]

theorem advanceRound_livesMove (request : AdvanceRoundRequest) :
    (advanceRound request).Ensures False s fun _ t => LivesMove Offered s t := by
  refine livesMove_readTournament fun x hfind => ?_
  refine ensures_bind (ensures_require (fun hplaying => ?_) fun _ => livesMove_refl s)
  have hterms : (s.event x.source).toEventTerms = x.toTournament.eventTerms :=
    eventTerms_tournament hfind
  have hphase : x.status.phase = .playing :=
    congrArg TournamentStatus.phase (of_decide_eq_true hplaying)
  refine ensures_bind (ensures_demand (fun bracket _ => ?_) fun _ => livesMove_refl s)
  change (settleRound x.toTournament (recordResults bracket request.results) request.now).Ensures
    False s fun _ u => LivesMove Offered s u
  unfold settleRound
  -- The round that decides the final pays the prizes, any other leaves the escrow.
  by_cases hfinal : finalDecided (recordResults bracket request.results) = true
  · rw [if_pos hfinal]
    refine ensures_bind (ensures_mono (completeTournament_calm _ s) fun r u hu => ?_)
    have hentrants := view_entrants hu.1
    have hdeposits := view_deposited hu.1
    have hview := hu.1
    simp only [lifeView, Prod.mk.injEq] at hview
    cases r with
    | error e => exact livesMove_of_view hu.1 hu.2.1
    | ok _ =>
        rcases hu.2.escrow with ⟨escrow, total, fee, hescrow, hlocked, hescrows⟩
        have hsource : escrow.escrowId = x.source := Table.key_of_findOne hescrow
        have hheld := escrow_of_find hescrow
        rw [hlocked] at hheld
        refine ensures_bind (ensures_perform ?_ False.elim)
        refine livesMove_tournament
          (x := completedTournament x.toTournament (recordResults bracket request.results)
            request.now)
          (.single (.pay escrow.currentBalance (escrow.afterRelease total fee).currentBalance ?_
            hheld))
          (congrArg (fun tournaments => tournaments.save (completedTournament x.toTournament
            (recordResults bracket request.results) request.now)) hview.2.1) hview.1 ?_
          (onlyAt_escrow (escrow.afterRelease total fee) hsource hescrows hentrants
            hdeposits rfl rfl
            rfl)
        · exact (congrArg EventTerms.phase hterms).trans hphase
        · exact (congrArg (fun terms : EventTerms => { terms with phase := .paid }) hterms).symm
  · rw [if_neg hfinal]
    refine ensures_bind (ensures_perform ?_ False.elim)
    exact saveTournament_livesMove
      (advancedTournament x.toTournament (recordResults bracket request.results)) hfind rfl rfl rfl
        rfl rfl rfl rfl

/-! ### Cancellations -/

/-- What a refund makes of the life it is about. -/
theorem refunded_event {source : SourceId} (h : Refunded s t source) :
    ∃ escrow, s.escrows.findOne source = some escrow ∧
      t.event source = (s.event source).refunded escrow.currentBalance ∧
      ∀ other, other ≠ source → t.event other = s.event other := by
  rcases h with ⟨escrow, txs, hfind, -, htxs, rfl⟩
  have hkey : escrow.escrowId = source := Table.key_of_findOne hfind
  -- The rows of a refund are not deposits.
  have hrows : ∀ other, ((s.withEscrowTxs txs).withEscrow (escrow.afterRefund
      ((s.depositRows source).map EscrowTransaction.amount).sum)).deposited other =
        s.deposited other := by
    intro other
    have hdeposits := deposits_append (s := s) htxs
    unfold Db.deposited
    rw [depositRows_eq _ other, depositRows_eq s other]
    exact congrArg (fun deposits : List EscrowTransaction =>
      ((deposits.filter fun tx => tx.escrowId = other).map EscrowTransaction.amount).sum) hdeposits
  refine ⟨escrow, hfind, ?_, fun other hother => ?_⟩
  · have honly : OnlyAt s ((s.withEscrowTxs txs).withEscrow (escrow.afterRefund
        ((s.depositRows source).map EscrowTransaction.amount).sum)) source
          ((s.event source).refunded escrow.currentBalance) :=
      onlyAt_escrow (escrow.afterRefund _) hkey rfl rfl (funext hrows) rfl rfl rfl
    exact honly.event_eq rfl
  · refine event_congr rfl ?_ rfl (hrows other)
    exact Table.findOne_save_of_ne (hkey ▸ hother)

theorem refundable_status {source : SourceId} (h : s.refundable source) :
    ∃ escrow, s.escrows.findOne source = some escrow ∧
      (escrow.status = .ACTIVE ∨ escrow.status = .LOCKED) := by
  rcases h with ⟨escrow, hfind, hcan, -⟩
  refine ⟨escrow, hfind, ?_⟩
  unfold EscrowAccount.canRefund at hcan
  rw [Bool.and_eq_true] at hcan
  simpa using hcan.1

theorem cancelMatch_livesMove (hs : Ledger s) (hkept : ∀ source, (s.event source).Kept)
    (matchId : String) (now : Int) (hcourse : ¬(Call.cancelMatch matchId now).strays s) :
    (cancelMatch matchId now).Ensures False s fun _ t => LivesMove Offered s t := by
  refine ensures_mono (cancelMatch_calm hs matchId now) fun r t ht => ?_
  rcases ht.2 with ⟨rfl, -⟩ | ⟨⟨m, hfind, hlive, hrefundable⟩, hrefunded⟩
  · exact livesMove_refl t
  have hkey : m.matchId = matchId := Table.key_of_findOne hfind
  rcases refundable_status hrefundable with ⟨escrow, hescrow, hstatus⟩
  rcases refunded_event hrefunded with ⟨found, hfound, hevent, hframe⟩
  obtain rfl : found = escrow := Option.some.inj (hfound.symm.trans hescrow)
  have hheld := escrow_of_find hescrow
  have hterms : (s.event (matchSource matchId)).toEventTerms = m.eventTerms := by
    have hfind' := hfind
    rw [← hkey] at hfind' ⊢
    exact eventTerms_match hfind'
  have hstep := (hkept (matchSource matchId)).inStep hheld hstatus
  have hphase : (s.event (matchSource matchId)).phase = .finished := by
    refine (congrArg EventTerms.phase hterms).trans ?_
    unfold Event.InStep at hstep
    rw [hterms] at hstep
    unfold Match.eventTerms at hstep ⊢
    unfold Match.over at hlive
    cases hm : m.status with
    | STARTING => rfl
    | DISPUTED => rfl
    | COMPLETED => rfl
    | WAITING => exact absurd ⟨m, hfind, Or.inl hm, hrefundable⟩ hcourse
    | READY => exact absurd ⟨m, hfind, Or.inr (Or.inl hm), hrefundable⟩ hcourse
    | IN_PROGRESS => exact absurd ⟨m, hfind, Or.inr (Or.inr hm), hrefundable⟩ hcourse
    | SETTLED =>
        rw [hm] at hlive
        exact absurd hlive (by decide)
    | CANCELLED =>
        rw [hm] at hlive
        exact absurd hlive (by decide)
    | CREATED =>
        -- The escrow of a match without players has no deposits to refund.
        rw [hm] at hstep
        rw [(Event.escrow_unique hheld hstep.2.escrow).1] at hstatus
        exact absurd hstatus (by decide)
  exact livesMove_at _ (hevent ▸ .refund found.status found.currentBalance (Or.inr hphase)
    hheld hstatus)
    hframe

theorem cancelTournament_livesMove (hs : Ledger s) (hkept : ∀ source, (s.event source).Kept)
    (tournamentId : String) (now : Int)
    (hcourse : ¬(Call.cancelTournament tournamentId now).strays s) :
    (cancelTournament tournamentId now).Ensures False s fun _ t => LivesMove Offered s t := by
  refine ensures_mono (cancelTournament_calm hs tournamentId now) fun r t ht => ?_
  rcases ht.2 with ⟨rfl, -⟩ | ⟨⟨x, hfind, hnot, hrefundable⟩, hrefunded⟩
  · exact livesMove_refl t
  have hkey : x.tournamentId = tournamentId := Table.key_of_findOne hfind
  rcases refundable_status hrefundable with ⟨escrow, hescrow, hstatus⟩
  rcases refunded_event hrefunded with ⟨found, hfound, hevent, hframe⟩
  obtain rfl : found = escrow := Option.some.inj (hfound.symm.trans hescrow)
  have hheld := escrow_of_find hescrow
  have hterms : (s.event (tournamentSource tournamentId)).toEventTerms = x.eventTerms := by
    have hfind' := hfind
    rw [← hkey] at hfind' ⊢
    exact eventTerms_tournament hfind'
  have hstep := (hkept (tournamentSource tournamentId)).inStep hheld hstatus
  have hphase : (s.event (tournamentSource tournamentId)).phase = .open_ := by
    refine (congrArg EventTerms.phase hterms).trans ?_
    unfold Event.InStep at hstep
    rw [hterms] at hstep
    unfold Tournament.eventTerms at hstep ⊢
    cases hx : x.status with
    | REGISTRATION_OPEN => rfl
    | REGISTRATION_CLOSED => rfl
    | COMPLETED => exact absurd hx hnot
    | BRACKET_GENERATED => exact absurd ⟨x, hfind, Or.inl hx, hrefundable⟩ hcourse
    | IN_PROGRESS => exact absurd ⟨x, hfind, Or.inr hx, hrefundable⟩ hcourse
    | DRAFT =>
        -- The escrow of a draft has no deposits to refund.
        rw [hx] at hstep
        rw [(Event.escrow_unique hheld hstep.2.escrow).1] at hstatus
        exact absurd hstatus (by decide)
    | CANCELLED =>
        rw [hx] at hstep
        rw [(Event.escrow_unique hheld hstep).1] at hstatus
        exact absurd hstatus (by decide)
  exact livesMove_at _ (hevent ▸ .refund found.status found.currentBalance (Or.inl hphase)
    hheld hstatus)
    hframe

/-! ### Every call -/

/-- Rows, escrows and what calm runs rely on besides. -/
structure Coupled (db : Db) : Prop where
  ledger : Ledger db
  inStep : ∀ source, (db.event source).InStep

theorem coupled_empty : Coupled Db.empty := by
  refine ⟨ledger_empty, fun source => ?_⟩
  rcases source with ⟨type, hex⟩
  cases type with
  | MATCH => exact ⟨rfl, rfl⟩
  | TOURNAMENT => exact ⟨rfl, rfl⟩

/-- A call that stays on course moves every life on. -/
theorem call_livesMove (hs : Ledger s) (hkept : ∀ source, (s.event source).Kept) {call : Call}
    (hpublic : call.isPublic = true) (hoffers : call.Offers Offered) (hcourse : ¬call.strays s) :
    call.program.Ensures False s fun _ t => LivesMove Offered s t := by
  cases call with
  | createWallet request => exact discard_ensures (createWallet_livesMove request)
  | deposit request => exact discard_ensures (deposit_livesMove request)
  | withdraw request => exact discard_ensures (withdraw_livesMove request)
  | createMatch request => exact discard_ensures (createMatch_livesMove hs request hoffers)
  | joinMatch request => exact discard_ensures (joinMatch_livesMove hs request)
  | startMatch matchId now => exact discard_ensures (startMatch_livesMove matchId now)
  | submitResult request => exact discard_ensures (submitResult_livesMove request)
  | cancelMatch matchId now =>
      exact discard_ensures (cancelMatch_livesMove hs hkept matchId now hcourse)
  | createTournament request =>
      exact discard_ensures (createTournament_livesMove hs request hoffers)
  | openRegistration tournamentId => exact discard_ensures (openRegistration_livesMove tournamentId)
  | registerPlayer request => exact discard_ensures (registerPlayer_livesMove hs request)
  | closeRegistration tournamentId =>
      exact discard_ensures (closeRegistration_livesMove tournamentId)
  | generateBracket request => exact discard_ensures (generateBracket_livesMove request hcourse)
  | startTournament request => exact discard_ensures (startTournament_livesMove request)
  | advanceRound request => exact discard_ensures (advanceRound_livesMove request)
  | cancelTournament tournamentId now =>
      exact discard_ensures (cancelTournament_livesMove hs hkept tournamentId now hcourse)
  -- No client can make the remaining calls.
  | createEscrow _ | depositToEscrow _ | lockEscrow _ | releaseEscrow _ | refundEscrow _
  | closeEscrow _ | lockFunds _ | unlockFunds _ | deductEntryFee _ _ => exact nomatch hpublic

/-- Every call makes some offer. -/
theorem offers_all (call : Call) : call.Offers fun _ => True := by
  cases call <;> simp [Call.Offers]

theorem call_coupled (hs : Coupled s) {call : Call} (haccepted : call.Accepted)
    (hpublic : call.isPublic = true) (hcourse : ¬call.strays s) :
    call.program.Ensures False s fun _ t => Coupled t := by
  refine ensures_mono (ensures_and (call_makes hs.ledger haccepted hpublic)
    (call_livesMove hs.ledger (fun source => Or.inl (hs.inStep source)) hpublic (offers_all call)
      hcourse))
    fun r t ht => ?_
  refine ⟨effects_ledger ht.1 hs.ledger, fun source => ?_⟩
  exact Event.keeps_of_reflGen (ht.2 source) (fun next hstep => hstep.inStep (hs.inStep source))
    (hs.inStep source)

/-! ### The table -/

/-- A match whose event is in step follows the table. -/
theorem matchTable_of_coupled (hs : Coupled s) {m : Match} (hm : m ∈ s.matchRows.rows) :
    MatchTable s m := by
  have hfind : s.matchRows.findOne m.matchId = some m := Table.findOne_of_mem hm
  rcases (hs.ledger.matchRows m hm).2 with ⟨escrow, hescrow⟩
  have hheld := escrow_of_find hescrow
  have hterms : (s.event m.source).toEventTerms = m.eventTerms := eventTerms_match hfind
  have hstep := hs.inStep m.source
  -- Where the event is funded, the escrow holds all fees, which are the pool.
  have hholds : ∀ status, (s.event m.source).Funded status →
      ∃ escrow, s.escrows.findOne m.source = some escrow ∧ escrow.status = status ∧
        escrow.currentBalance = m.entryFee * (s.participantsOf m.matchId).length ∧
        escrow.currentBalance = m.prizePool := by
    intro status h
    have hdue : (s.event m.source).due = m.entryFee * (s.participantsOf m.matchId).length := by
      unfold Event.due
      rw [hterms]
      rfl
    rcases Event.escrow_unique hheld h.escrow with ⟨hstatus, hbalance⟩
    refine ⟨escrow, hescrow, hstatus, hbalance.trans hdue, hbalance.trans ?_⟩
    rw [← h.pool, hterms]
    rfl
  unfold Event.InStep at hstep
  rw [hterms] at hstep
  unfold Match.eventTerms at hstep
  unfold MatchTable
  -- The table promises something for five of the statuses.
  cases hstatus : m.status with
  | CREATED => trivial
  | STARTING => trivial
  | COMPLETED => trivial
  | DISPUTED => trivial
  | WAITING =>
      rw [hstatus] at hstep
      exact hholds _ hstep
  | READY =>
      rw [hstatus] at hstep
      exact hholds _ hstep
  | IN_PROGRESS =>
      rw [hstatus] at hstep
      exact hholds _ hstep
  | SETTLED =>
      rw [hstatus] at hstep
      rcases hstep with ⟨left, hleft⟩
      exact ⟨escrow, hescrow, (Event.escrow_unique hheld hleft).1⟩
  | CANCELLED =>
      rw [hstatus] at hstep
      exact ⟨escrow, hescrow, Event.escrow_unique hheld hstep⟩

theorem tournamentTable_of_coupled (hs : Coupled s) {x : Tournament}
    (hx : x ∈ s.tournaments.rows) : TournamentTable s x := by
  have hfind : s.tournaments.findOne x.tournamentId = some x := Table.findOne_of_mem hx
  rcases (hs.ledger.tournaments x hx).2.1 with ⟨escrow, hescrow⟩
  have hheld := escrow_of_find hescrow
  have hterms : (s.event x.source).toEventTerms = x.eventTerms := eventTerms_tournament hfind
  have hstep := hs.inStep x.source
  -- What is due are the fees of those who are confirmed.
  have hdue : (s.event x.source).due = x.entryFee * (s.confirmed x.tournamentId).length := by
    unfold Event.due
    rw [hterms]
    rfl
  unfold Event.InStep at hstep
  rw [hterms] at hstep
  unfold Tournament.eventTerms at hstep
  unfold TournamentTable
  cases hstatus : x.status with
  | DRAFT => trivial
  | REGISTRATION_OPEN => trivial
  | REGISTRATION_CLOSED => trivial
  | BRACKET_GENERATED =>
      rw [hstatus] at hstep
      rcases Event.escrow_unique hheld hstep.escrow with ⟨hlocked, hbalance⟩
      exact ⟨escrow, hescrow, hlocked, hbalance.trans hdue⟩
  | IN_PROGRESS =>
      rw [hstatus] at hstep
      rcases Event.escrow_unique hheld hstep.escrow with ⟨hlocked, hbalance⟩
      exact ⟨escrow, hescrow, hlocked, hbalance.trans hdue⟩
  | COMPLETED =>
      rw [hstatus] at hstep
      rcases hstep with ⟨left, hleft⟩
      exact ⟨escrow, hescrow, (Event.escrow_unique hheld hleft).1⟩
  | CANCELLED =>
      rw [hstatus] at hstep
      exact ⟨escrow, hescrow, (Event.escrow_unique hheld hstep).1⟩

theorem followsTable_of_coupled (hs : Coupled s) : FollowsTable s :=
  ⟨fun _ hm => matchTable_of_coupled hs hm, fun _ hx => tournamentTable_of_coupled hs hx⟩

/-- In the table the phase of an event fixes the status of its escrow. -/
theorem FollowsTable.status (h : FollowsTable s) {source : SourceId} {status : EscrowStatus}
    (hphase : (s.event source).phase.escrowStatus = some status) :
    ∃ balance, (s.event source).escrow = some (status, balance) := by
  -- The row of the table names the status that the phase asks for.
  have hone : ∀ status', (∃ escrow, s.escrows.findOne source = some escrow ∧
      escrow.status = status') → some status' = some status →
        ∃ balance, (s.event source).escrow = some (status, balance) := by
    rintro status' ⟨escrow, hescrow, rfl⟩ heq
    rw [← Option.some.inj heq]
    exact ⟨escrow.currentBalance, escrow_of_find hescrow⟩
  rcases source with ⟨type, hex⟩
  cases type with
  | MATCH =>
      cases hfind : s.matchRows.findOne hex with
      | none => simp [Db.event, Db.eventTerms, hfind, EventTerms.none, Phase.escrowStatus] at hphase
      | some m =>
          have hkey : m.matchId = hex := Table.key_of_findOne hfind
          have htable := h.matchRows m (Table.mem_of_findOne hfind)
          have hsource : m.source = ⟨.MATCH, hex⟩ := congrArg matchSource hkey
          have hphase' : m.status.phase.escrowStatus = some status := by
            simpa [Db.event, Db.eventTerms, hfind, Match.eventTerms] using hphase
          unfold MatchTable at htable
          rw [hsource] at htable
          cases hstatus : m.status with
          | CREATED => rw [hstatus] at hphase'; exact nomatch hphase'
          | STARTING => rw [hstatus] at hphase'; exact nomatch hphase'
          | COMPLETED => rw [hstatus] at hphase'; exact nomatch hphase'
          | DISPUTED => rw [hstatus] at hphase'; exact nomatch hphase'
          | WAITING =>
              rw [hstatus] at htable hphase'
              exact hone _ (htable.imp fun _ he => ⟨he.1, he.2.1⟩) hphase'
          | READY =>
              rw [hstatus] at htable hphase'
              exact hone _ (htable.imp fun _ he => ⟨he.1, he.2.1⟩) hphase'
          | IN_PROGRESS =>
              rw [hstatus] at htable hphase'
              exact hone _ (htable.imp fun _ he => ⟨he.1, he.2.1⟩) hphase'
          | SETTLED =>
              rw [hstatus] at htable hphase'
              exact hone _ htable hphase'
          | CANCELLED =>
              rw [hstatus] at htable hphase'
              exact hone _ (htable.imp fun _ he => ⟨he.1, he.2.1⟩) hphase'
  | TOURNAMENT =>
      cases hfind : s.tournaments.findOne hex with
      | none => simp [Db.event, Db.eventTerms, hfind, EventTerms.none, Phase.escrowStatus] at hphase
      | some x =>
          have hkey : x.tournamentId = hex := Table.key_of_findOne hfind
          have htable := h.tournaments x (Table.mem_of_findOne hfind)
          have hsource : x.source = ⟨.TOURNAMENT, hex⟩ := congrArg tournamentSource hkey
          have hphase' : x.status.phase.escrowStatus = some status := by
            simpa [Db.event, Db.eventTerms, hfind, Tournament.eventTerms] using hphase
          unfold TournamentTable at htable
          rw [hsource] at htable
          cases hstatus : x.status with
          | DRAFT => rw [hstatus] at hphase'; exact nomatch hphase'
          | REGISTRATION_OPEN => rw [hstatus] at hphase'; exact nomatch hphase'
          | REGISTRATION_CLOSED => rw [hstatus] at hphase'; exact nomatch hphase'
          | BRACKET_GENERATED =>
              rw [hstatus] at htable hphase'
              exact hone _ (htable.imp fun _ he => ⟨he.1, he.2.1⟩) hphase'
          | IN_PROGRESS =>
              rw [hstatus] at htable hphase'
              exact hone _ (htable.imp fun _ he => ⟨he.1, he.2.1⟩) hphase'
          | COMPLETED =>
              rw [hstatus] at htable hphase'
              exact hone _ htable hphase'
          | CANCELLED =>
              rw [hstatus] at htable hphase'
              exact hone _ htable hphase'

/-! ### Going astray -/

/-- One life goes astray, and the others stay. -/
def StraysAt (s t : Db) (source : SourceId) : Prop :=
  (s.event source).Stray (t.event source) ∧ ∀ other, other ≠ source → t.event other = s.event other

/-- A refund leads astray while players are waiting or playing. -/
theorem straysAt_refunded {source : SourceId} (hrefundable : s.refundable source)
    (hrefunded : Refunded s t source)
    (hphase : (s.event source).phase = .filling ∨ (s.event source).phase = .playing) :
    StraysAt s t source := by
  rcases refunded_event hrefunded with ⟨escrow, hescrow, hevent, hframe⟩
  rcases refundable_status hrefundable with ⟨found, hfound, hheld⟩
  obtain rfl : found = escrow := Option.some.inj (hfound.symm.trans hescrow)
  exact ⟨hevent ▸ .refund found.status found.currentBalance hphase (escrow_of_find hescrow) hheld,
    hframe⟩

theorem cancelMatch_strays (hs : Ledger s) {matchId : String} {now : Int}
    (hstray : (Call.cancelMatch matchId now).strays s) :
    (cancelMatch matchId now).Ensures False s fun _ t => StraysAt s t (matchSource matchId) := by
  rcases hstray with ⟨m, hfind, hstatus, hrefundable⟩
  refine ensures_mono (cancelMatch_calm hs matchId now) fun r t ht => ?_
  have hlive : m.over = false := by
    unfold Match.over
    rcases hstatus with h | h | h <;> rw [h] <;> rfl
  -- The match is not over and its escrow has money, so it is refunded.
  have hrefunded : Refunded s t (matchSource matchId) := by
    rcases ht.2 with ⟨-, hnot⟩ | ⟨-, hrefunded⟩
    · exact absurd ⟨m, hfind, hlive, hrefundable⟩ hnot
    · exact hrefunded
  refine straysAt_refunded hrefundable hrefunded ?_
  have hkey : m.matchId = matchId := Table.key_of_findOne hfind
  have hterms : (s.event (matchSource matchId)).toEventTerms = m.eventTerms := by
    rw [← hkey] at hfind ⊢
    exact eventTerms_match hfind
  -- But its row still says that players are waiting or playing.
  have hphase := congrArg EventTerms.phase hterms
  rcases hstatus with h | h | h
  · exact Or.inl (hphase.trans (congrArg MatchStatus.phase h))
  · exact Or.inl (hphase.trans (congrArg MatchStatus.phase h))
  · exact Or.inr (hphase.trans (congrArg MatchStatus.phase h))

theorem cancelTournament_strays (hs : Ledger s) {tournamentId : String} {now : Int}
    (hstray : (Call.cancelTournament tournamentId now).strays s) :
    (cancelTournament tournamentId now).Ensures False s fun _ t =>
      StraysAt s t (tournamentSource tournamentId) := by
  rcases hstray with ⟨x, hfind, hstatus, hrefundable⟩
  refine ensures_mono (cancelTournament_calm hs tournamentId now) fun r t ht => ?_
  have hlive : x.status ≠ .COMPLETED := by
    rcases hstatus with h | h <;> rw [h] <;> decide
  -- The tournament is not over and its escrow has money, so it is refunded.
  have hrefunded : Refunded s t (tournamentSource tournamentId) := by
    rcases ht.2 with ⟨-, hnot⟩ | ⟨-, hrefunded⟩
    · exact absurd ⟨x, hfind, hlive, hrefundable⟩ hnot
    · exact hrefunded
  refine straysAt_refunded hrefundable hrefunded (Or.inr ?_)
  have hkey : x.tournamentId = tournamentId := Table.key_of_findOne hfind
  have hterms : (s.event (tournamentSource tournamentId)).toEventTerms = x.eventTerms := by
    rw [← hkey] at hfind ⊢
    exact eventTerms_tournament hfind
  -- But its row still says that it is being played.
  have hphase := congrArg EventTerms.phase hterms
  rcases hstatus with h | h
  · exact hphase.trans (congrArg TournamentStatus.phase h)
  · exact hphase.trans (congrArg TournamentStatus.phase h)

/-- A stored bracket leads astray when the escrow was not locked with it. -/
theorem straysAt_unlocked {x : Tournament} {bracket : Bracket}
    (hfind : s.tournaments.findOne x.tournamentId = some x)
    (hcan : (s.loaded x).canGenerateBracket = true)
    (hunlocked : ∀ escrow, s.escrows.findOne x.source = some escrow → escrow.status ≠ .ACTIVE)
    (htournaments : t.tournaments = s.tournaments.save (withBracket x bracket))
    (hmatches : t.matchRows = s.matchRows) (hescrows : t.escrows = s.escrows)
    (hentrants : t.entrants = s.entrants) (hdeposits : t.deposited = s.deposited) :
    StraysAt s t x.source := by
  have hterms : (s.event x.source).toEventTerms = x.eventTerms := eventTerms_tournament hfind
  have hclosed : x.status = .REGISTRATION_CLOSED := by
    unfold LoadedTournament.canGenerateBracket at hcan
    rw [Bool.and_eq_true] at hcan
    exact of_decide_eq_true hcan.1
  have hphase : (s.event x.source).phase = .open_ :=
    (congrArg EventTerms.phase hterms).trans (congrArg TournamentStatus.phase hclosed)
  have honly : OnlyAt s t x.source { s.event x.source with phase := .playing } :=
    onlyAt_row hescrows hentrants hdeposits rfl rfl rfl
  -- The life has moved on to the play, and its escrow has not.
  have hevent : t.event x.source = { s.event x.source with phase := .playing } := by
    refine honly.event_eq ?_
    rw [eventTerms_saveTournament htournaments hmatches]
    refine (if_pos rfl).trans ?_
    exact (congrArg (fun terms : EventTerms => { terms with phase := .playing }) hterms).symm
  refine ⟨hevent ▸ .unlocked hphase fun balance hactive => ?_,
    fun other hother => honly.frame hother ?_⟩
  · rcases Option.map_eq_some_iff.mp hactive with ⟨escrow, hescrow, heq⟩
    exact hunlocked escrow hescrow (congrArg Prod.fst heq)
  · rw [eventTerms_saveTournament htournaments hmatches]
    exact if_neg hother

theorem generateBracket_strays {request : GenerateBracketRequest}
    (hstray : (Call.generateBracket request).strays s) :
    (generateBracket request).Ensures False s fun _ t =>
      StraysAt s t (tournamentSource request.tournamentId) := by
  rcases hstray with ⟨x, hfind, hcan, henough, hunlocked⟩
  refine ensures_mono (generateBracket_calm request s) fun r t ht => ?_
  rcases ht with ⟨-, hnot⟩ | ⟨x', bracket, hpasses, htournaments, hmatches, hentrants, hdeposits,
    hr⟩
  · exact absurd ⟨hfind, hcan, henough⟩ (hnot x)
  obtain rfl : x' = x := Option.some.inj (hpasses.find.symm.trans hfind)
  have hkey : x'.tournamentId = request.tournamentId := Table.key_of_findOne hfind
  rw [← hkey] at hfind hunlocked ⊢
  -- An escrow that cannot be locked makes the call fail after the matches are saved.
  cases r with
  | ok _ =>
      rcases hr with ⟨escrow, hescrow, hactive, -⟩
      exact absurd hactive (hunlocked escrow hescrow)
  | error e =>
      exact straysAt_unlocked hfind hcan hunlocked htournaments hmatches hr.1 hentrants hdeposits

/-- A call that goes astray does so in one life. -/
theorem call_strays (hs : Ledger s) {call : Call} (hstray : call.strays s) :
    call.program.Ensures False s fun _ t => ∃ source, StraysAt s t source := by
  -- Only the two cancellations and the bracket of an unfunded tournament go astray.
  cases call with
  | cancelMatch matchId now =>
      exact discard_ensures (ensures_mono (cancelMatch_strays hs hstray) fun _ _ ht => ⟨_, ht⟩)
  | cancelTournament tournamentId now =>
      exact discard_ensures (ensures_mono (cancelTournament_strays hs hstray) fun _ _ ht => ⟨_, ht⟩)
  | generateBracket request =>
      exact discard_ensures (ensures_mono (generateBracket_strays hstray) fun _ _ ht => ⟨_, ht⟩)
  | createWallet _ | deposit _ | withdraw _ | createMatch _ | joinMatch _ | startMatch _ _
  | submitResult _ | createTournament _ | openRegistration _ | registerPlayer _
  | closeRegistration _ | startTournament _ | advanceRound _ | createEscrow _ | depositToEscrow _
  | lockEscrow _ | releaseEscrow _ | refundEscrow _ | closeEscrow _ | lockFunds _ | unlockFunds _
  | deductEntryFee _ _ => exact absurd hstray not_false

/-- An event that is in step or astray, with an offer that was made. -/
def Event.Sound (Offered : Offer → Prop) (event : Event) : Prop :=
  event.Kept ∧ (event.phase ≠ .absent → Offered event.offer)

/-- Whether calls stay on course or not, every life is in step or astray. -/
theorem call_sound (hs : Ledger s) (hsound : ∀ source, (s.event source).Sound Offered) {call : Call}
    (hpublic : call.isPublic = true) (hoffers : call.Offers Offered) :
    call.program.Ensures False s fun _ t => ∀ source, (t.event source).Sound Offered := by
  -- A call that strays does so in one life and leaves the others.
  by_cases hcourse : call.strays s
  · refine ensures_mono (call_strays hs hcourse) fun _ t ht source => ?_
    rcases ht with ⟨astray, hstray, hframe⟩
    by_cases hsource : source = astray
    · rw [hsource]
      exact ⟨hstray.kept (hsound astray).1, hstray.offered (hsound astray).2⟩
    · rw [hframe source hsource]
      exact hsound source
  · refine ensures_mono (call_livesMove hs (fun source => (hsound source).1) hpublic
      hoffers hcourse)
      fun _ t ht source => ?_
    refine Event.keeps_of_reflGen (ht source) (fun next hstep => ?_) (hsound source)
    exact ⟨hstep.kept (hsound source).1, hstep.offered (hsound source).2⟩

/-- A life that went astray does not follow the table. -/
theorem not_followsTable (hs : Coupled s) {source : SourceId}
    (hstray : (s.event source).Stray (t.event source)) : ¬FollowsTable t := by
  intro htable
  rcases hstray.escrow (hs.inStep source) with ⟨status, hphase, hno⟩
  rcases htable.status hphase with ⟨balance, hescrow⟩
  exact hno balance hescrow

end Calls

/-- After every calm run the invariant holds, and every life is in step or astray
    and has an offer that was made. -/
theorem sound_after {run : Run} (hrun : CalmRun run) {Offered : Offer → Prop}
    (hoffers : ∀ call ∈ run, call.1.Offers Offered) : Ledger (Db.empty.after run) ∧
      ∀ source, ((Db.empty.after run).event source).Sound Offered := by
  refine after_invariant (C := False)
    (P := fun call => call.Accepted ∧ call.isPublic = true ∧ call.Offers Offered)
    (I := fun db => Ledger db ∧ ∀ source, (db.event source).Sound Offered)
    (fun call s hcall hs => ?_) ⟨ledger_empty, fun source => ⟨?_, fun hphase => ?_⟩⟩
    (fun call hmem => ⟨hrun.accepted call hmem, hrun.public_ call hmem, hoffers call hmem⟩)
    fun _ => hrun.calm
  · exact ensures_mono (ensures_and (call_makes hs.1 hcall.1 hcall.2.1)
      (call_sound hs.1 hs.2 hcall.2.1 hcall.2.2)) fun _ _ ht => ⟨effects_ledger ht.1 hs.1, ht.2⟩
  · exact Or.inl (coupled_empty.inStep source)
  · -- There are no rows yet.
    rcases source with ⟨type, hex⟩
    cases type with
    | MATCH => exact absurd rfl hphase
    | TOURNAMENT => exact absurd rfl hphase

/-- The table holds throughout a run exactly when no call goes astray. -/
theorem followsTable_iff {run : Run} (hrun : CalmRun run) :
    AlongRun Call.program (fun _ _ _ t => FollowsTable t) run Db.empty ↔
      AlongRun Call.program (fun call s _ _ => ¬call.strays s) run Db.empty := by
  refine alongRun_iff (C := False) (I := Coupled) (fun call hcall s hcourse hs => ?_)
    (fun call hcall s hstray hs => ?_) (fun call hcall => Or.inl (hrun.calm call hcall))
    coupled_empty
  · have hcoupled := call_coupled hs (hrun.accepted call hcall) (hrun.public_ call hcall) hcourse
    exact ensures_mono hcoupled fun _ _ ht => ⟨followsTable_of_coupled ht, ht⟩
  · refine ensures_mono (call_strays hs.ledger (not_not.mp hstray)) fun _ t ht => ?_
    rcases ht with ⟨source, hone, -⟩
    exact not_followsTable hs hone

/-- A match that is called off still waits for players, with its escrow
    refunded. -/
theorem not_followsTable_cancelledMatch :
    let run := joinedMatch ++ Run.calmly [.cancelMatch "m" 0]
    (run.Accepted ∧ run.Public) ∧
      (Db.empty.after run).matchRows.rows.map Match.status = [.WAITING] ∧
      (Db.empty.after run).escrows.rows.map EscrowAccount.status = [.REFUNDED] ∧
      ¬FollowsTable (Db.empty.after run) := by
  refine ⟨by decide, by decide +kernel, by decide +kernel, fun htable => ?_⟩
  have hphase : ((Db.empty.after (joinedMatch ++ Run.calmly [.cancelMatch "m" 0])).event
      (matchSource "m")).phase.escrowStatus = some .ACTIVE := by
    decide +kernel
  have hescrow : ((Db.empty.after (joinedMatch ++ Run.calmly [.cancelMatch "m" 0])).event
      (matchSource "m")).escrow = some (.REFUNDED, 0) := by
    decide +kernel
  rcases htable.status hphase with ⟨balance, hactive⟩
  exact nomatch (Event.escrow_unique hactive hescrow).1

/-- A match that is played to its end follows the table all along. -/
theorem followsTable_settledMatch :
    AlongRun Call.program (fun _ _ _ t => FollowsTable t) settledMatch Db.empty := by
  refine (followsTable_iff (calmRun_calmly (by decide) (by decide))).mpr ?_
  exact ⟨id, id, id, id, id, id, id, id, id, id, id, id, trivial⟩

end Esports

end SvmCourse
