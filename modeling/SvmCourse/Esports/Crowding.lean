import SvmCourse.Core.Serial
import SvmCourse.Esports.Calm

/-!
# Entries at the Same Time

Players who enter one match, or one tournament, at the same time. Every entry
reads the row of the match first and saves it last, and in between it reads and
saves the row of the escrow, so two entries that overlap forget one of each
other's fees: the pool, and with worse luck the escrow and the number of seats,
are what they were read as.

Entries that are let in one after the other keep all of it in order. An entry
that is not let in is turned away by its first read, and may come at any time;
so may one of a player who is in already.

## Main definitions

* `EntryCall`: Somebody joins the match or registers for the tournament.
* `InOrder`: Seats, escrow and pool agree with the entries.
* `entersAlone`: Nobody is let in while somebody else is on the way.
* `EntryResult`: What an entry does when nobody else is at it.
* `EntryLog`: How the store goes together with who has entered.

## Theorems

* `entry_calm`: What one entry does.
* `entries_inOrder`: Entries that are let in alone keep everything in order.
-/

namespace SvmCourse

namespace Esports

open Core Core.Prog Core.Machine Core.Sched

/-! ### Entries -/

/-- Somebody enters. The instant is that of a registration. -/
structure EntryCall where
  playerId : String
  now : Int := 0

/-- The entry of a player into a match or a tournament. -/
def EntryCall.program (source : SourceId) (call : EntryCall) : Service Unit :=
  match source.sourceType with
  | .MATCH => discard (joinMatch { matchId := source.hex, playerId := call.playerId })
  | .TOURNAMENT => discard (registerPlayer
      { tournamentId := source.hex, playerId := call.playerId, now := call.now })

/-- The match is joinable, or the tournament open for registration. -/
def EntryCall.admitted (source : SourceId) (db : Db) (call : EntryCall) : Bool :=
  match source.sourceType with
  | .MATCH => (db.matchRows.findOne source.hex).any fun m => (db.loadedMatch m).isJoinable
  | .TOURNAMENT => (db.tournaments.findOne source.hex).any fun t =>
      (db.loaded t).isRegistrationOpen call.now

/-- Entries that run at the same time. -/
abbrev EntryPool := Pool Db ServiceError EntryCall

/-- The player takes part already. -/
def Db.isIn (db : Db) (source : SourceId) (playerId : String) : Bool :=
  match source.sourceType with
  | .MATCH => (db.participants.findOne (source.hex, playerId)).isSome
  | .TOURNAMENT => (db.registrations.findOne (source.hex, playerId)).isSome

/-- A player who was not in before reads the match as joinable only while no
    other such player is between the first and the last access. -/
def entersAlone (s : Db) (source : SourceId) (m : Move EntryCall) (pool : EntryPool) : Bool :=
  match m with
  | .start _ => true
  | .access i => (pool.threads[i]?).all fun thread =>
      !(thread.made = 0 && thread.call.admitted source pool.store) ||
        s.isIn source thread.call.playerId ||
        pool.threads.all fun other => !other.midway || s.isIn source other.call.playerId

/-! ### What should be in order -/

/-- How many players there may be. -/
def Db.capacity (db : Db) (source : SourceId) : Option Nat :=
  match source.sourceType with
  | .MATCH => (db.matchRows.findOne source.hex).map Match.maxPlayers
  | .TOURNAMENT => (db.tournaments.findOne source.hex).map Tournament.maxParticipants

/-- What a player pays to get in. -/
def Db.entryFee (db : Db) (source : SourceId) : Option Int :=
  match source.sourceType with
  | .MATCH => (db.matchRows.findOne source.hex).map Match.entryFee
  | .TOURNAMENT => (db.tournaments.findOne source.hex).map Tournament.entryFee

/-- The number of participants or registrations. -/
def Db.entries (db : Db) (source : SourceId) : Nat :=
  match source.sourceType with
  | .MATCH => (db.participants.find fun p => p.matchId = source.hex).length
  | .TOURNAMENT => (db.registrations.find fun r => r.tournamentId = source.hex).length

/-- Nobody is in it for whom there is no place, the escrow holds what was
    deposited in it, and the pool is the fees of those who are in it. -/
structure InOrder (db : Db) (source : SourceId) : Prop where
  places : ∀ n, db.capacity source = some n → db.entries source ≤ n
  escrow : ∀ funds, db.escrowFunds source = some funds →
    funds = (db.deposited source, db.deposited source)
  pool : ∀ fee, db.entryFee source = some fee →
    db.prizePool source = some (fee * db.entries source)

/-- The escrow would take a fee, unless nobody is let in anyway. -/
def Db.takesFees (db : Db) (source : SourceId) : Prop :=
  ∀ call : EntryCall, call.admitted source db = true →
    ∃ escrow, db.escrows.findOne source = some escrow ∧ escrow.canDeposit = true

/-- What entries need to know of the rest of the store. -/
structure Receptive (db : Db) (source : SourceId) : Prop where
  order : InOrder db source
  takesFees : db.takesFees source
  locked : ∀ wallet ∈ db.wallets.rows, 0 ≤ wallet.lockedBalance
  counted : ∀ r ∈ db.registrations.rows, r.isCounted = true

/-! ### One entry -/

/-- Somebody has entered. -/
structure Entered (s t : Db) (source : SourceId) (playerId : String) (fee : Int) : Prop where
  wallets : ∃ wallet : PlayerWallet, wallet.playerId = playerId ∧ 0 ≤ wallet.lockedBalance ∧
    t.wallets = s.wallets.save wallet
  room : ∀ n, s.capacity source = some n → s.entries source < n
  capacity : t.capacity source = s.capacity source
  fee_eq : s.entryFee source = some fee ∧ t.entryFee source = some fee
  entries : t.entries source = s.entries source + 1
  pool : t.prizePool source = (s.prizePool source).map fun pool => pool + fee
  deposited : t.deposited source = s.deposited source + fee
  escrow : ∃ escrow, s.escrows.findOne source = some escrow ∧ escrow.canDeposit = true ∧
    t.escrows.findOne source = some (escrow.afterDeposit fee)
  registrations : ∀ r ∈ t.registrations.rows, r ∈ s.registrations.rows ∨ r.isCounted = true

section Entries

variable {s t : Db} {source : SourceId} {playerId : String} {fee : Int}

theorem Entered.inOrder (h : Entered s t source playerId fee) (hs : InOrder s source) :
    InOrder t source where
  places n hn := by
    -- There was room for the one entrant more.
    rw [h.entries]
    exact h.room n (h.capacity.symm.trans hn)
  escrow funds hfunds := by
    -- The balance and the total of the deposits grow by the same fee.
    rcases h.escrow with ⟨escrow, hfind, -, hfind'⟩
    have hbefore := hs.escrow (escrow.currentBalance, escrow.totalDeposited) (by
      unfold Db.escrowFunds
      rw [hfind, Option.map_some])
    unfold Db.escrowFunds at hfunds
    rw [hfind', Option.map_some, Option.some.injEq] at hfunds
    rw [← hfunds, h.deposited]
    rcases Prod.mk.inj hbefore with ⟨hcurrent, htotal⟩
    unfold EscrowAccount.afterDeposit
    simp only [hcurrent, htotal]
  pool fee' hfee' := by
    -- And so does the pool, which is the fee times the entrants.
    obtain rfl := Option.some.inj (h.fee_eq.2.symm.trans hfee')
    rw [h.pool, hs.pool fee h.fee_eq.1, h.entries, Option.map_some, Int.natCast_add,
      Int.natCast_one, Int.mul_add, Int.mul_one]

theorem canDeposit_afterDeposit {escrow : EscrowAccount} (h : escrow.canDeposit = true)
    (amount : Int) : (escrow.afterDeposit amount).canDeposit = true := by
  unfold EscrowAccount.canDeposit EscrowAccount.isActive
  rw [afterDeposit_active h]
  rfl

theorem Entered.receptive (h : Entered s t source playerId fee) (hs : Receptive s source) :
    Receptive t source where
  order := h.inOrder hs.order
  takesFees _ _ := by
    rcases h.escrow with ⟨escrow, -, hcan, hfind⟩
    exact ⟨_, hfind, canDeposit_afterDeposit hcan fee⟩
  locked wallet hmem := by
    rcases h.wallets with ⟨changed, -, hlocked, hwallets⟩
    rw [hwallets] at hmem
    rcases Table.mem_save.mp hmem with rfl | hold
    · exact hlocked
    · exact hs.locked wallet hold.1
  counted r hr := (h.registrations r hr).elim (hs.counted r) id

/-- Paying the fee, with whatever is written down about the entry afterwards. -/
theorem enter_receptive {α : Type} {entry : Entry α} (book : PlayerWallet → Db → Db)
    (hs : Receptive s entry.source)
    (hopen : ∃ escrow, s.escrows.findOne entry.source = some escrow ∧ escrow.canDeposit = true)
    (hfunds : s.canPay entry.playerId entry.entryFee = true)
    (hregister : ∀ w u, ∃ a, (entry.register w).eval u = (.ok a, book w u)) :
    (enter entry).Ensures False s fun r t => match r with
      | .error _ => t = s
      | .ok _ => ∃ wallet escrow, EntryPaid s entry wallet escrow ∧
          t = book wallet (s.afterEntry entry wallet escrow) := by
  refine ensures_mono (enter_calm hs.locked hregister) fun r t ht => ?_
  cases r with
  | ok a => exact ht
  | error e =>
      -- The wallet can pay and the escrow takes the fee, so there is no error.
      rcases hopen with ⟨escrow, hfind, hcan⟩
      rcases (Option.any_eq_true ..).mp hfunds with ⟨wallet, hwallet, hlock⟩
      exact absurd ⟨hwallet, hlock, hfind, hcan⟩ (ht.2 wallet escrow)

/-- The rows of the entry are those of a match or a tournament, so the fee is
    where `afterEntry` puts it. -/
theorem entered_afterEntry {α : Type} {entry : Entry α} {wallet : PlayerWallet}
    {escrow : EscrowAccount} (hs : Receptive s entry.source)
    (hpaid : EntryPaid s entry wallet escrow) (hwallets : t.wallets =
      (s.afterEntry entry wallet escrow).wallets)
    (hescrows : t.escrows = (s.afterEntry entry wallet escrow).escrows)
    (htxs : t.escrowTxs = (s.afterEntry entry wallet escrow).escrowTxs) :
    (∃ wallet : PlayerWallet, wallet.playerId = entry.playerId ∧ 0 ≤ wallet.lockedBalance ∧
      t.wallets = s.wallets.save wallet) ∧
    t.deposited entry.source = s.deposited entry.source + entry.entryFee ∧
    ∃ escrow, s.escrows.findOne entry.source = some escrow ∧ escrow.canDeposit = true ∧
      t.escrows.findOne entry.source = some (escrow.afterDeposit entry.entryFee) := by
  refine ⟨⟨wallet.afterCharge entry.entryFee, ?_, ?_, hwallets⟩, ?_,
    escrow, hpaid.findEscrow, hpaid.canDeposit, ?_⟩
  · have hkey : wallet.playerId = entry.playerId := Table.key_of_findOne hpaid.findWallet
    exact hkey
  · have hlocked := hs.locked wallet (Table.mem_of_findOne hpaid.findWallet)
    simp only [PlayerWallet.afterCharge]
    omega
  · have hself : entry.source = (entryDeposit entry wallet).escrowId := rfl
    rw [deposited_append htxs, if_pos hself]
    rfl
  · have hkey : escrow.escrowId = entry.source := Table.key_of_findOne hpaid.findEscrow
    rw [hescrows, Db.afterEntry]
    simp only
    rw [← hkey]
    exact Table.findOne_save_self s.escrows (escrow.afterDeposit entry.entryFee)

/-- What an entry does when nobody else is at it: nothing if it is rejected. -/
def EntryResult (s : Db) (source : SourceId) (playerId : String) (r : Except ServiceError Unit)
    (t : Db) : Prop :=
  match r with
  | .error _ => t = s
  | .ok _ => ∃ fee, Entered s t source playerId fee

/-- The wallet of the player can pay for the entry. -/
def Db.affords (db : Db) (source : SourceId) (playerId : String) : Prop :=
  ∀ fee, db.entryFee source = some fee → db.canPay playerId fee = true

theorem joinMatch_entered {request : JoinMatchRequest}
    (hs : Receptive s (matchSource request.matchId))
    (hfunds : s.affords (matchSource request.matchId) request.playerId) :
    (discard (joinMatch request)).Ensures False s
      (EntryResult s (matchSource request.matchId) request.playerId) := by
  refine ensures_bind (ensures_bind (ensures_mono (checkJoin_ensures request s) fun r t ht => ?_))
  rcases ht with ⟨rfl, hm⟩
  cases r with
  | error e => exact rfl
  | ok m =>
      rcases hm m rfl with ⟨hfind, hparticipants, hjoinable, hnew⟩
      have hkey : m.matchId = request.matchId := Table.key_of_findOne hfind
      have hsource : (joinEntry request m).source = matchSource request.matchId :=
        congrArg matchSource hkey
      -- The match that was checked is the one of the store, so the call is admitted.
      have hloaded : t.loadedMatch m.toMatch = m := by
        rcases m with ⟨row, participants⟩
        simp only at hkey hparticipants
        rw [Db.loadedMatch, hparticipants, hkey]
      have hadmitted : EntryCall.admitted (matchSource request.matchId) t
          ⟨request.playerId, 0⟩ := by
        simp only [EntryCall.admitted, hfind, Option.any_some, hloaded, hjoinable]
      have hfee : t.entryFee (matchSource request.matchId) = some m.entryFee := by
        simp only [Db.entryFee, hfind, Option.map_some]
      have hopen := hs.takesFees _ hadmitted
      rw [← hsource] at hs hopen
      refine ensures_mono (enter_receptive (fun w u =>
        { u with
          participants := u.participants.save (newParticipant m request w)
          matchRows := u.matchRows.save (afterJoin m) }) hs hopen (hfunds _ hfee)
        fun w u => ⟨_, rfl⟩) fun r u hu => ?_
      cases r with
      | error e => exact hu
      | ok participant =>
          rcases hu with ⟨wallet, escrow, hpaid, rfl⟩
          -- The wallet, the escrow and the deposits are booked by the general entry.
          have hbooked := entered_afterEntry hs hpaid rfl rfl rfl
          rw [hsource] at hbooked
          rcases hbooked with ⟨hwallet, hdeposited, hescrow⟩
          unfold LoadedMatch.isJoinable at hjoinable
          rw [Bool.and_eq_true, decide_eq_true_eq, hparticipants] at hjoinable
          -- What is left is the row of the match, and the one participant more.
          have hrow : (t.matchRows.save (afterJoin m)).findOne request.matchId =
              some (afterJoin m) := by
            rw [← hkey]
            exact Table.findOne_save_self t.matchRows (afterJoin m)
          have hgrown := Table.find_save_new (r := newParticipant m request wallet)
            (p := fun p => p.matchId = request.matchId) hnew (by simp [newParticipant, hkey])
          exact ⟨m.entryFee, {
            wallets := hwallet
            deposited := hdeposited
            escrow := hescrow
            registrations := fun r hr => Or.inl hr
            fee_eq := ⟨hfee, by simp only [Db.entryFee, Db.afterEntry, hrow, Option.map_some]; rfl⟩
            capacity := by simp only [Db.capacity, Db.afterEntry, hrow, hfind, Option.map_some]; rfl
            pool := by simp only [Db.prizePool, Db.afterEntry, hrow, hfind, Option.map_some]; rfl
            entries := by simp [Db.entries, Db.afterEntry, hgrown]
            room := fun n hn => by
              rw [Db.capacity, hfind, Option.map_some] at hn
              rw [← Option.some.inj hn]
              exact hjoinable.2 }⟩

theorem registerPlayer_entered {request : RegisterPlayerRequest}
    (hs : Receptive s (tournamentSource request.tournamentId))
    (hfunds : s.affords (tournamentSource request.tournamentId) request.playerId) :
    (discard (registerPlayer request)).Ensures False s
      (EntryResult s (tournamentSource request.tournamentId) request.playerId) := by
  refine ensures_bind (ensures_bind (ensures_mono (checkRegistration_ensures request s)
    fun r t ht => ?_))
  rcases ht with ⟨rfl, hx⟩
  cases r with
  | error e => exact rfl
  | ok x =>
      rcases hx x rfl with ⟨hfind, hregistrations, hopened, hnew⟩
      have hkey : x.tournamentId = request.tournamentId := Table.key_of_findOne hfind
      have hsource : (registrationEntry request x).source =
          tournamentSource request.tournamentId := congrArg tournamentSource hkey
      -- As for a match, the tournament that was checked is the one of the store.
      have hloaded : t.loaded x.toTournament = x := by
        rcases x with ⟨row, registrations⟩
        simp only at hkey hregistrations
        rw [Db.loaded, hregistrations, hkey]
      have hadmitted : EntryCall.admitted (tournamentSource request.tournamentId) t
          ⟨request.playerId, request.now⟩ := by
        simp only [EntryCall.admitted, hfind, Option.any_some, hloaded, hopened]
      have hfee : t.entryFee (tournamentSource request.tournamentId) = some x.entryFee := by
        simp only [Db.entryFee, hfind, Option.map_some]
      have hopen := hs.takesFees _ hadmitted
      -- No registration is withdrawn while players come in, so all of them count.
      have hcount : x.getCurrentParticipantCount =
          (t.registrations.find fun r => r.tournamentId = request.tournamentId).length := by
        unfold LoadedTournament.getCurrentParticipantCount
        rw [hregistrations, List.filter_eq_self.mpr]
        exact fun r hr => hs.counted r (List.mem_of_mem_filter hr)
      rw [← hsource] at hs hopen
      refine ensures_mono (enter_receptive (fun w u =>
        { u with
          registrations := u.registrations.save (newRegistration x request w)
          tournaments := u.tournaments.save (afterRegistration x) }) hs hopen (hfunds _ hfee)
        fun w u => ⟨_, rfl⟩) fun r u hu => ?_
      cases r with
      | error e => exact hu
      | ok registration =>
          rcases hu with ⟨wallet, escrow, hpaid, rfl⟩
          have hbooked := entered_afterEntry hs hpaid rfl rfl rfl
          rw [hsource] at hbooked
          rcases hbooked with ⟨hwallet, hdeposited, hescrow⟩
          unfold LoadedTournament.isRegistrationOpen at hopened
          rw [Bool.and_eq_true, decide_eq_true_eq, hcount] at hopened
          -- The row of the tournament has the fee more, and its registrations are one
          -- more.
          have hrow : (t.tournaments.save (afterRegistration x)).findOne request.tournamentId =
              some (afterRegistration x) := by
            rw [← hkey]
            exact Table.findOne_save_self t.tournaments (afterRegistration x)
          have hgrown := Table.find_save_new (r := newRegistration x request wallet)
            (p := fun r => r.tournamentId = request.tournamentId) hnew
            (by simp [newRegistration, hkey])
          exact ⟨x.entryFee, {
            wallets := hwallet
            deposited := hdeposited
            escrow := hescrow
            registrations := fun r hr => by
              rcases Table.mem_save.mp hr with rfl | hold
              · exact Or.inr rfl
              · exact Or.inl hold.1
            fee_eq := ⟨hfee, by simp only [Db.entryFee, Db.afterEntry, hrow, Option.map_some]; rfl⟩
            capacity := by simp only [Db.capacity, Db.afterEntry, hrow, hfind, Option.map_some]; rfl
            pool := by simp only [Db.prizePool, Db.afterEntry, hrow, hfind, Option.map_some]; rfl
            entries := by simp [Db.entries, Db.afterEntry, hgrown]
            room := fun n hn => by
              rw [Db.capacity, hfind, Option.map_some] at hn
              rw [← Option.some.inj hn]
              exact hopened.2 }⟩

/-- An entry that nobody disturbs. -/
theorem entry_calm {call : EntryCall} (hs : Receptive s source)
    (hfunds : s.affords source call.playerId) :
    (call.program source).Ensures False s (EntryResult s source call.playerId) := by
  rcases source with ⟨sourceType, hex⟩
  cases sourceType with
  | MATCH =>
      let request : JoinMatchRequest := { matchId := hex, playerId := call.playerId }
      exact @joinMatch_entered s request hs hfunds
  | TOURNAMENT =>
      let request : RegisterPlayerRequest :=
        { tournamentId := hex, playerId := call.playerId, now := call.now }
      exact @registerPlayer_entered s request hs hfunds

/-- The first access of an entry is a read, and turns away whoever is not
    admitted. -/
theorem entry_next (source : SourceId) (call : EntryCall) (db : Db) :
    ((call.program source).next db).2 = db ∧
      match call.admitted source db with
      | true => ((call.program source).next db).1.unfinished = true
      | false => ∃ e, ((call.program source).next db).1.outcome = some (.error e) := by
  rcases source with ⟨sourceType, hex⟩
  cases sourceType with
  | MATCH =>
      refine ⟨rfl, ?_⟩
      simp only [EntryCall.program, EntryCall.admitted, discard, joinMatch, checkJoin,
        getMatchById, matchRepository.findOne, query, perform, bind_eq, Prog.bind, next]
      cases hfind : db.matchRows.findOne hex with
      | none => exact ⟨_, rfl⟩
      | some m =>
          have hkey : m.matchId = hex := Table.key_of_findOne hfind
          simp only [Option.any_some, Option.map_some, demand, Prog.bind, Db.loadedMatch, hkey]
          -- The check of the joinable match needs no access after the first.
          cases hjoinable : LoadedMatch.isJoinable
            ⟨m, db.participants.find fun p => p.matchId = hex⟩ with
          | true => rfl
          | false => exact ⟨_, rfl⟩
  | TOURNAMENT =>
      refine ⟨rfl, ?_⟩
      simp only [EntryCall.program, EntryCall.admitted, discard, registerPlayer,
        checkRegistration, getTournamentById, tournamentRepository.findOne, query, perform,
        bind_eq, Prog.bind, next]
      cases hfind : db.tournaments.findOne hex with
      | none => exact ⟨_, rfl⟩
      | some x =>
          have hkey : x.tournamentId = hex := Table.key_of_findOne hfind
          simp only [Option.any_some, Option.map_some, demand, Prog.bind, Db.loaded, hkey]
          -- Nor does that of the open registration.
          cases hopen : LoadedTournament.isRegistrationOpen
            ⟨x, db.registrations.find fun r => r.tournamentId = hex⟩ call.now with
          | true => rfl
          | false => exact ⟨_, rfl⟩

/-! ### Players who are in already -/

/-- Whoever was in is in. -/
def StillIn (s : Db) (source : SourceId) (u : Db) : Prop :=
  ∀ playerId, s.isIn source playerId = true → u.isIn source playerId = true

theorem stillIn_ignoresWallets : IgnoresWallets (StillIn s source) := fun _ _ _ _ hu => hu

theorem enter_stillIn {α : Type} {entry : Entry α} (hregister : ∀ wallet,
    (entry.register wallet).Upholds (StillIn s source) fun _ => True) :
    (enter entry).Upholds (StillIn s source) fun _ => True := by
  have hread : ∀ (escrowId : SourceId) (refusal : ServiceError),
      ((escrowRepository.findOne escrowId).bind fun escrow => demand escrow refusal).Upholds
        (StillIn s source) fun _ => True := fun _ _ =>
    upholds_bind (R := fun _ => True) (upholds_perform fun _ hu => ⟨hu, trivial⟩) fun _ _ =>
      upholds_demand fun _ _ => trivial
  refine upholds_bind (R := fun _ => True) ?_ fun wallet _ => upholds_onError ?_ fun e => ?_
  · -- Locking the funds saves a wallet only.
    refine upholds_bind (getWallet_upholds _) fun wallet _ => ?_
    exact upholds_bind (lockFunds_upholds stillIn_ignoresWallets _) fun _ _ => trivial
  · -- The deposit writes the escrow and its rows, and then the entrant is added.
    refine upholds_bind (hread _ _) fun escrow _ => ?_
    refine upholds_bind (R := fun _ => True) (upholds_bind (hread _ _) fun escrow _ => ?_)
      fun _ _ => ?_
    · refine upholds_bind (R := fun _ => True) (upholds_require fun _ => trivial) fun _ _ => ?_
      refine upholds_bind (R := fun _ => True) (upholds_perform fun _ hu => ⟨hu, trivial⟩)
        fun _ _ => ?_
      exact upholds_bind (R := fun _ => True) (upholds_perform fun _ hu => ⟨hu, trivial⟩)
        fun _ _ => trivial
    · exact upholds_bind (deductEntryFee_upholds stillIn_ignoresWallets _ _) fun _ _ =>
        hregister wallet
  · -- The handler gives the funds back, which again is a wallet.
    exact upholds_bind (unlockFunds_upholds stillIn_ignoresWallets _) fun _ _ => trivial

theorem checkJoin_stillIn (request : JoinMatchRequest) :
    (checkJoin request).Upholds (StillIn s source) fun _ => True := by
  refine upholds_bind (R := fun _ => True) (upholds_bind (R := fun _ => True)
    (upholds_perform fun _ hu => ⟨hu, trivial⟩) fun _ _ => upholds_demand fun _ _ => trivial)
    fun m _ => ?_
  refine upholds_bind (R := fun _ => True) (upholds_require fun _ => trivial) fun _ _ => ?_
  refine upholds_bind (R := fun _ => True) (upholds_perform fun _ hu => ⟨hu, trivial⟩)
    fun existing _ => ?_
  exact upholds_bind (R := fun _ => True) (upholds_require fun _ => trivial) fun _ _ => trivial

theorem checkRegistration_stillIn (request : RegisterPlayerRequest) :
    (checkRegistration request).Upholds (StillIn s source) fun _ => True := by
  refine upholds_bind (R := fun _ => True) (upholds_bind (R := fun _ => True)
    (upholds_perform fun _ hu => ⟨hu, trivial⟩) fun _ _ => upholds_demand fun _ _ => trivial)
    fun x _ => ?_
  refine upholds_bind (R := fun _ => True) (upholds_require fun _ => trivial) fun _ _ => ?_
  refine upholds_bind (R := fun _ => True) (upholds_perform fun _ hu => ⟨hu, trivial⟩)
    fun existing _ => ?_
  exact upholds_bind (R := fun _ => True) (upholds_require fun _ => trivial) fun _ _ => trivial

/-- No access of an entry takes anybody out. -/
theorem entry_stillIn (call : EntryCall) :
    (call.program source).Upholds (StillIn s source) fun _ => True := by
  rcases source with ⟨sourceType, hex⟩
  cases sourceType with
  | MATCH =>
      refine upholds_bind (R := fun _ => True) (upholds_bind (checkJoin_stillIn _) fun m _ => ?_)
        fun _ _ => trivial
      refine enter_stillIn fun wallet => ?_
      refine upholds_bind (R := fun _ => True) (upholds_perform fun u hu => ⟨?_, trivial⟩)
        fun _ _ => ?_
      · -- Saving one participant keeps the others.
        intro playerId hin
        rcases Option.isSome_iff_exists.mp (hu playerId hin) with ⟨participant, hfind⟩
        exact Option.isSome_iff_exists.mpr (Table.exists_findOne_save hfind _)
      · exact upholds_bind (R := fun _ => True) (upholds_perform fun _ hu => ⟨hu, trivial⟩)
          fun _ _ => trivial
  | TOURNAMENT =>
      refine upholds_bind (R := fun _ => True) (upholds_bind (checkRegistration_stillIn _)
        fun x _ => ?_) fun _ _ => trivial
      refine enter_stillIn fun wallet => ?_
      refine upholds_bind (R := fun _ => True) (upholds_perform fun u hu => ⟨?_, trivial⟩)
        fun _ _ => ?_
      · intro playerId hin
        rcases Option.isSome_iff_exists.mp (hu playerId hin) with ⟨registration, hfind⟩
        exact Option.isSome_iff_exists.mpr (Table.exists_findOne_save hfind _)
      · exact upholds_bind (R := fun _ => True) (upholds_perform fun _ hu => ⟨hu, trivial⟩)
          fun _ _ => trivial

/-- Whoever is in already reads the match and the own row, and is rejected. -/
theorem entry_idles {call : EntryCall} (hin : s.isIn source call.playerId = true) :
    (call.program source).Idles (StillIn s source) := by
  rcases source with ⟨sourceType, hex⟩
  cases sourceType with
  | MATCH =>
      simp only [EntryCall.program, discard, joinMatch, checkJoin, getMatchById,
        matchRepository.findOne, participantRepository.findOne, query, perform, bind_eq, Prog.bind,
        Idles]
      refine fun u _ => ⟨trivial, ?_⟩
      cases hfind : u.matchRows.findOne hex with
      | none => exact trivial
      | some m =>
          have hkey : m.matchId = hex := Table.key_of_findOne hfind
          simp only [Option.map_some, demand, Prog.bind]
          cases LoadedMatch.isJoinable ⟨m, u.participants.find fun p => p.matchId = hex⟩ with
          | false => exact trivial
          | true =>
              refine fun v hv => ⟨rfl, ?_⟩
              -- The player is still in when the own row is read.
              have hthere : (v.participants.findOne (m.matchId, call.playerId)).isNone = false := by
                rw [hkey]
                exact Option.isNone_eq_false_iff.mpr (hv call.playerId hin)
              dsimp only
              rw [hthere]
              exact trivial
  | TOURNAMENT =>
      simp only [EntryCall.program, discard, registerPlayer, checkRegistration, getTournamentById,
        tournamentRepository.findOne, registrationRepository.findOne, query, perform, bind_eq,
        Prog.bind, Idles]
      refine fun u _ => ⟨trivial, ?_⟩
      cases hfind : u.tournaments.findOne hex with
      | none => exact trivial
      | some x =>
          have hkey : x.tournamentId = hex := Table.key_of_findOne hfind
          simp only [Option.map_some, demand, Prog.bind]
          cases LoadedTournament.isRegistrationOpen
            ⟨x, u.registrations.find fun r => r.tournamentId = hex⟩ call.now with
          | false => exact trivial
          | true =>
              refine fun v hv => ⟨rfl, ?_⟩
              -- The registration is still there when it is read.
              have hthere : (v.registrations.findOne (x.tournamentId, call.playerId)).isNone =
                  false := by
                rw [hkey]
                exact Option.isNone_eq_false_iff.mpr (hv call.playerId hin)
              dsimp only
              rw [hthere]
              exact trivial

end Entries

/-! ### Many entries -/

/-- Entries with what they have come to. -/
abbrev EntryRecord := List (EntryCall × Option (Except ServiceError Unit))

/-- Somebody else than `playerId` entered whenever somebody did. -/
def EntryRecord.leaves (log : EntryRecord) (playerId : String) : Prop :=
  ∀ call, (call, some (.ok ())) ∈ log → call.playerId ≠ playerId

/-- How the store `t` goes together with who has entered since `s`: everything
    is in order, different players called and could pay in `s`, and whoever has
    not entered has the wallet of then. -/
structure EntryLog (s : Db) (source : SourceId) (log : EntryRecord) (t : Db) : Prop where
  receptive : Receptive t source
  fee : t.entryFee source = s.entryFee source
  players : (log.map fun entry => entry.1.playerId).Nodup
  funds : ∀ entry ∈ log, s.affords source entry.1.playerId
  untouched : ∀ playerId, log.leaves playerId →
    t.wallets.findOne playerId = s.wallets.findOne playerId

section Log

variable {s t u : Db} {source : SourceId} {call : EntryCall} {log log' : EntryRecord}

/-- A call that has not returned leaves its own wallet alone. -/
theorem leaves_own (h : ((log ++ (call, none) :: log').map fun entry => entry.1.playerId).Nodup) :
    EntryRecord.leaves (log ++ (call, none) :: log') call.playerId := by
  rw [List.map_append, List.map_cons] at h
  rcases List.nodup_middle.mp h with hcons
  rcases List.nodup_cons.mp hcons with ⟨hother, -⟩
  intro other hmem heq
  rw [← heq, ← List.map_append] at hother
  refine hother (List.mem_map.mpr ⟨(other, some (.ok ())), ?_, rfl⟩)
  rcases List.mem_append.mp hmem with hbefore | hafter
  · exact List.mem_append_left _ hbefore
  · rcases List.mem_cons.mp hafter with hself | hrest
    · exact nomatch hself
    · exact List.mem_append_right _ hrest

/-- Returning is seen by nobody who is left alone afterwards. -/
theorem leaves_of_returned {r : Except ServiceError Unit} {playerId : String}
    (h : EntryRecord.leaves (log ++ (call, some r) :: log') playerId) :
    EntryRecord.leaves (log ++ (call, none) :: log') playerId := by
  intro other hmem
  refine h other ?_
  rcases List.mem_append.mp hmem with hbefore | hafter
  · exact List.mem_append_left _ hbefore
  · rcases List.mem_cons.mp hafter with hself | hrest
    · exact nomatch hself
    · exact List.mem_append_right _ (List.mem_cons_of_mem _ hrest)

theorem EntryLog.start (h : EntryLog s source log t) (hfunds : s.affords source call.playerId)
    (hnew : ∀ entry ∈ log, entry.1.playerId ≠ call.playerId) :
    EntryLog s source (log ++ [(call, none)]) t where
  receptive := h.receptive
  fee := h.fee
  players := by
    rw [List.map_append, List.map_singleton, List.nodup_append]
    refine ⟨h.players, List.nodup_singleton _, fun a ha b hb => ?_⟩
    rcases List.mem_map.mp ha with ⟨entry, hmem, rfl⟩
    obtain rfl := List.mem_singleton.mp hb
    exact hnew entry hmem
  funds entry hmem := by
    rcases List.mem_append.mp hmem with hold | hone
    · exact h.funds entry hold
    · obtain rfl := List.mem_singleton.mp hone
      exact hfunds
  -- A call that has only been started has written nothing.
  untouched playerId hleaves := h.untouched playerId fun other hmem =>
    hleaves other (List.mem_append_left _ hmem)

/-- The result of an entry is entered in the log. -/
theorem EntryLog.finish {r : Except ServiceError Unit}
    (h : EntryLog s source (log ++ (call, none) :: log') t)
    (hresult : EntryResult t source call.playerId r u) :
    EntryLog s source (log ++ (call, some r) :: log') u := by
  have hplayers : (log ++ (call, some r) :: log').map (fun entry => entry.1.playerId) =
      (log ++ (call, none) :: log').map fun entry => entry.1.playerId := by
    rw [List.map_append, List.map_cons, List.map_append, List.map_cons]
  have hfunds : ∀ entry ∈ log ++ (call, some r) :: log', s.affords source entry.1.playerId := by
    rcases List.forall_mem_append.mp h.funds with ⟨hbefore, hafter⟩
    rcases List.forall_mem_cons.mp hafter with ⟨hself, hrest⟩
    exact List.forall_mem_append.mpr ⟨hbefore, List.forall_mem_cons.mpr ⟨hself, hrest⟩⟩
  cases r with
  | error e =>
      -- A refused entry changes nothing, and its player may still come in.
      obtain rfl : u = t := hresult
      exact ⟨h.receptive, h.fee, hplayers ▸ h.players, hfunds,
        fun playerId hleaves => h.untouched playerId (leaves_of_returned hleaves)⟩
  | ok _ =>
      rcases hresult with ⟨fee, hentered⟩
      refine ⟨hentered.receptive h.receptive, ?_, hplayers ▸ h.players, hfunds, ?_⟩
      · exact hentered.fee_eq.2.trans (hentered.fee_eq.1.symm.trans h.fee)
      · -- An accepted one saves only the wallet of its own player.
        intro playerId hleaves
        rcases hentered.wallets with ⟨wallet, hplayer, -, hwallets⟩
        have hother : call.playerId ≠ playerId :=
          hleaves call (List.mem_append_right _ (List.mem_cons_self ..))
        rw [hwallets, Table.findOne_save_of_ne fun heq => hother (hplayer.symm.trans heq.symm)]
        exact h.untouched playerId (leaves_of_returned hleaves)

/-- Whoever is on the way can still pay. -/
theorem EntryLog.affords (h : EntryLog s source (log ++ (call, none) :: log') t) :
    t.affords source call.playerId := by
  intro fee hfee
  have hfunds := h.funds (call, none) (List.mem_append_right _ (List.mem_cons_self ..)) fee
    (h.fee.symm.trans hfee)
  unfold Db.canPay at hfunds ⊢
  rw [h.untouched call.playerId (leaves_own h.players)]
  exact hfunds

end Log

/-- A move that starts an entry of a player who has not called and can pay, or
    makes an access of one that waits for the others. -/
structure InTurn (s : Db) (source : SourceId) (m : Move EntryCall) (pool : EntryPool) :
    Prop where
  alone : entersAlone s source m pool = true
  fresh : ∀ call, m = .start call → ∀ thread ∈ pool.threads,
    thread.call.playerId ≠ call.playerId
  funds : ∀ call, m = .start call → s.affords source call.playerId

theorem entry_law (s : Db) (source : SourceId) :
    SerialLaw (EntryCall.program source) (InTurn s source) (StillIn s source)
      (fun call => s.isIn source call.playerId = true) (EntryLog s source) where
  unfinished call := by
    rcases source with ⟨sourceType, hex⟩
    cases sourceType <;> rfl
  keeps := entry_stillIn
  idles _ := entry_idles
  waits pool i call hP haside hget hproceeds := by
    -- An admitted entry begins alone, since each is started when the others are done.
    have halone := hP.alone
    unfold Thread.proceeds at hproceeds
    rw [Bool.and_eq_true] at hproceeds
    rw [Bool.not_eq_true] at haside
    have hnext := (entry_next source call pool.store).2
    cases hadmitted : call.admitted source pool.store with
    | false =>
        rw [hadmitted] at hnext
        rcases hnext with ⟨e, he⟩
        exact nomatch (outcome_of_unfinished hproceeds.2).symm.trans he
    | true =>
        have hbegun : (Thread.begin (EntryCall.program source) call).call = call := rfl
        simp only [entersAlone, hget, Option.all_some, hbegun, hadmitted, haside, Bool.and_true,
          hproceeds.1, Bool.not_true, Bool.false_or, List.all_eq_true, Bool.or_eq_true,
          Bool.not_eq_true'] at halone
        exact fun other hmem => (halone other hmem).symm
  start pool call t hP hlog := by
    refine hlog.start (hP.funds call rfl) fun entry hmem => ?_
    rcases List.mem_map.mp hmem with ⟨thread, hthread, rfl⟩
    exact hP.fresh call rfl thread hthread
  finish log call log' t r u _ heval hlog := by
    have hresult := (ensures_false_iff ..).mp (entry_calm hlog.receptive hlog.affords)
    rw [heval] at hresult
    exact hlog.finish hresult
  refuse log call log' t u r _ houtcome hlog := by
    -- A call that ends with its first access was not admitted.
    have hnext := entry_next source call u
    refine ⟨hnext.1, ?_⟩
    cases hadmitted : call.admitted source u with
    | true =>
        rw [hadmitted] at hnext
        exact nomatch (outcome_of_unfinished hnext.2).symm.trans houtcome
    | false =>
        rw [hadmitted] at hnext
        rcases hnext.2 with ⟨e, he⟩
        obtain rfl := Option.some.inj (houtcome.symm.trans he)
        exact hlog.finish (u := t) rfl
  reject log call log' t e hlog := hlog.finish (u := t) rfl

/-- Everything is in order at the end, and whoever was rejected has the wallet
    of before. -/
structure NothingLost (s : Db) (source : SourceId) (pool : EntryPool) : Prop where
  order : InOrder pool.store source
  rejected : ∀ thread ∈ pool.threads, ∀ e, thread.rest.outcome = some (.error e) →
    pool.store.wallets.findOne thread.call.playerId = s.wallets.findOne thread.call.playerId

theorem EntryLog.nothingLost {s : Db} {source : SourceId} {pool : EntryPool}
    (h : EntryLog s source (pool.threads.map Thread.entry) pool.store) :
    NothingLost s source pool where
  order := h.receptive.order
  rejected thread hthread e he := by
    refine h.untouched thread.call.playerId fun call hmem heq => ?_
    rcases List.mem_map.mp hmem with ⟨other, hother, hentry⟩
    rcases Prod.mk.inj hentry with ⟨rfl, hok⟩
    -- Different players called, so it is the same call.
    have hplayers := h.players
    rw [List.map_map] at hplayers
    obtain rfl := List.inj_on_of_nodup_map hplayers hother hthread heq
    exact nomatch Option.some.inj (he.symm.trans hok)

theorem receptive_after {run : Run} (hrun : CalmRun run) {source : SourceId}
    (hs : InOrder (Db.empty.after run) source) (hopen : (Db.empty.after run).takesFees source) :
    Receptive (Db.empty.after run) source where
  order := hs
  takesFees := hopen
  locked := (ledger_after hrun).locked_nonneg
  counted r hr := by
    unfold TournamentRegistration.isCounted
    rw [((ledger_after hrun).registrations r hr).1]
    rfl

/-- Entries of different players who can pay, each let in while nobody else is
    on the way, overfill nothing and lose no money. -/
theorem entries_inOrder {run : Run} (hrun : CalmRun run) {source : SourceId}
    (hs : InOrder (Db.empty.after run) source) (hopen : (Db.empty.after run).takesFees source)
    {moves : List (Move EntryCall)}
    (hplayers : ((moves.filterMap Move.started).map EntryCall.playerId).Nodup)
    (hfunds : ∀ call ∈ moves.filterMap Move.started,
      (Db.empty.after run).affords source call.playerId)
    (halone : Along (move (EntryCall.program source))
      (fun m pool _ _ => entersAlone (Db.empty.after run) source m pool = true) moves
      ⟨Db.empty.after run, []⟩)
    (hreturned : ∀ thread ∈ (after (move (EntryCall.program source)) moves
      ⟨Db.empty.after run, []⟩).threads, thread.rest.unfinished = false) :
    NothingLost (Db.empty.after run) source
      (after (move (EntryCall.program source)) moves ⟨Db.empty.after run, []⟩) := by
  have hempty : EntryLog (Db.empty.after run) source [] (Db.empty.after run) :=
    ⟨receptive_after hrun hs hopen, rfl, List.nodup_nil,
      fun _ hmem => absurd hmem List.not_mem_nil, fun _ _ => rfl⟩
  have hfresh := @along_fresh Db ServiceError EntryCall (EntryCall.program source)
    ⟨Db.empty.after run, []⟩ String EntryCall.playerId moves hplayers
  -- Each call is let in alone, is of a player of its own, and can be paid.
  have hinturn : Along (move (EntryCall.program source))
      (fun m pool _ _ => InTurn (Db.empty.after run) source m pool) moves
      ⟨Db.empty.after run, []⟩ :=
    along_mono (fun _ _ _ _ h => ⟨h.1, h.2.1, h.2.2⟩)
      (along_and halone (along_and hfresh (along_started hfunds)))
  exact (serial_quiet (serial_after (entry_law _ source)
    (serial_nil (fun _ hin => hin) hempty) hinturn)
    hreturned).nothingLost

/-- Three players with money, and a match with two seats. -/
def crowdedMatch : Run :=
  Run.calmly (fundPlayers ["a", "b", "c"] 5000000 ++
    [.createMatch { hex := "m", entryFee := 1000000 }])

theorem crowdedMatch_inOrder : InOrder (Db.empty.after crowdedMatch) (matchSource "m") where
  places n hn := by
    have hnobody : (Db.empty.after crowdedMatch).entries (matchSource "m") = 0 := by
      decide +kernel
    rw [hnobody]
    exact Nat.zero_le n
  escrow funds hfunds := by
    have hempty : (Db.empty.after crowdedMatch).escrowFunds (matchSource "m") = some (0, 0) ∧
        (Db.empty.after crowdedMatch).deposited (matchSource "m") = 0 := by decide +kernel
    rw [hempty.1, Option.some.injEq] at hfunds
    rw [← hfunds, hempty.2]
  pool fee _ := by
    have hempty : (Db.empty.after crowdedMatch).prizePool (matchSource "m") = some 0 ∧
        (Db.empty.after crowdedMatch).entries (matchSource "m") = 0 := by decide +kernel
    rw [hempty.1, hempty.2, Int.natCast_zero, Int.mul_zero]

theorem crowdedMatch_takesFees : (Db.empty.after crowdedMatch).takesFees (matchSource "m") := by
  intro _ _
  have hopen : ((Db.empty.after crowdedMatch).escrows.findOne (matchSource "m")).any
      EscrowAccount.canDeposit = true := by decide +kernel
  exact (Option.any_eq_true ..).mp hopen

/-- All three can pay the fee. -/
theorem crowdedMatch_affords {moves : List (Move EntryCall)}
    (h : ∀ call ∈ moves.filterMap Move.started,
      (Db.empty.after crowdedMatch).canPay call.playerId 1000000 = true) :
    ∀ call ∈ moves.filterMap Move.started,
      (Db.empty.after crowdedMatch).affords (matchSource "m") call.playerId := by
  intro call hcall fee hfee
  have hentry : (Db.empty.after crowdedMatch).entryFee (matchSource "m") = some 1000000 := by
    decide +kernel
  rw [hentry, Option.some.injEq] at hfee
  exact hfee ▸ h call hcall

/-- The pool after the moves, from the store of the counterexample. -/
def crowdedPool (moves : List (Move EntryCall)) : EntryPool :=
  after (move (EntryCall.program (matchSource "m"))) moves ⟨Db.empty.after crowdedMatch, []⟩

/-- All three read the match before anybody has joined, and then join. -/
def crowdedMoves : List (Move EntryCall) :=
  [.start { playerId := "a" }, .start { playerId := "b" }, .start { playerId := "c" },
    .access 0, .access 1, .access 2] ++
  List.replicate 13 (.access 0) ++ List.replicate 13 (.access 1) ++ List.replicate 13 (.access 2)

/-- There are three players in the two seats, and one fee in the pool. -/
theorem not_entries_inOrder :
    CalmRun crowdedMatch ∧
    InOrder (Db.empty.after crowdedMatch) (matchSource "m") ∧
    (Db.empty.after crowdedMatch).takesFees (matchSource "m") ∧
    ((crowdedMoves.filterMap Move.started).map EntryCall.playerId).Nodup ∧
    (∀ call ∈ crowdedMoves.filterMap Move.started,
      (Db.empty.after crowdedMatch).affords (matchSource "m") call.playerId) ∧
    (∀ thread ∈ (crowdedPool crowdedMoves).threads, thread.rest.unfinished = false) ∧
    (crowdedPool crowdedMoves).store.capacity (matchSource "m") = some 2 ∧
    (crowdedPool crowdedMoves).store.entries (matchSource "m") = 3 ∧
    (crowdedPool crowdedMoves).store.prizePool (matchSource "m") = some 1000000 ∧
    ¬ NothingLost (Db.empty.after crowdedMatch) (matchSource "m") (crowdedPool crowdedMoves) := by
  have hfull : (crowdedPool crowdedMoves).store.capacity (matchSource "m") = some 2 ∧
      (crowdedPool crowdedMoves).store.entries (matchSource "m") = 3 := by decide +kernel
  refine ⟨calmRun_calmly (by decide +kernel) (by decide +kernel), crowdedMatch_inOrder,
    crowdedMatch_takesFees, by decide, crowdedMatch_affords (by decide +kernel),
    by decide +kernel, hfull.1, hfull.2, by decide +kernel, fun h => ?_⟩
  have hplaces := h.order.places 2 hfull.1
  rw [hfull.2] at hplaces
  exact absurd hplaces (by decide)

/-- The third player finds the match full just before the second has saved it. -/
def queuedMoves : List (Move EntryCall) :=
  [.start { playerId := "a" }, .start { playerId := "b" }, .start { playerId := "c" }] ++
  List.replicate 14 (.access 0) ++ List.replicate 13 (.access 1) ++ [.access 2, .access 1]

theorem entries_inOrder_queuedMoves :
    NothingLost (Db.empty.after crowdedMatch) (matchSource "m")
      (after (move (EntryCall.program (matchSource "m"))) queuedMoves
        ⟨Db.empty.after crowdedMatch, []⟩) :=
  entries_inOrder (calmRun_calmly (by decide +kernel) (by decide +kernel)) crowdedMatch_inOrder
    crowdedMatch_takesFees (by decide) (crowdedMatch_affords (by decide +kernel))
    (by decide +kernel) (by decide +kernel)

end Esports

end SvmCourse
