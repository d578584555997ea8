import SvmCourse.Esports.Entering
import SvmCourse.Esports.Tournament

/-!
# What a Calm Call Can Do

With a store that never fails, every public call changes the store by a few
kinds of effects: money enters or leaves a wallet, an entry moves a fee into an
escrow, a payout moves an escrow balance into wallets, a refund empties an
escrow, and rows change status. `Effect` lists them once. What a call does is a
chain of effects, so whatever every effect keeps, every calm call keeps.

One effect is out of line with the others. A refund takes its money out of the
escrow and gives it to nobody: handing it back is left to the unlocking of the
wallets, and no wallet has anything locked, since an entry that goes through
deducts what it locked. `Ledger` is the invariant that says so, and it is why
the chains never contain the unlocking of a wallet.

## Main definitions

* `Shifted`: Wallets that hold so much more, and lock what they locked.
* `Effect`, `Effects`: One effect, and chains of them. The parameter says
  whether the chain may refund.
* `Ledger`: The invariant of calm runs.
* `Db.refundable`, `Refunded`: An escrow a cancellation can pay back, and
  what the cancellation does with it.

## Theorems

* `effect_ledger`, `effects_ledger`: Effects keep the invariant.
-/

namespace SvmCourse

namespace Esports

open Core Core.Prog

/-! ### Wallets -/

/-- The wallets hold `delta` more in all, and every player locks as much as
    before. No wallet appears or disappears. -/
structure Shifted (wallets wallets' : Table PlayerWallet.playerId) (delta : Int) : Prop where
  total : wallets'.sum PlayerWallet.getTotalBalance =
    wallets.sum PlayerWallet.getTotalBalance + delta
  locked : ∀ playerId, (wallets'.findOne playerId).map PlayerWallet.lockedBalance =
    (wallets.findOne playerId).map PlayerWallet.lockedBalance

theorem Shifted.refl (wallets : Table PlayerWallet.playerId) : Shifted wallets wallets 0 :=
  ⟨(Int.add_zero _).symm, fun _ => rfl⟩

theorem Shifted.trans {a b c : Table PlayerWallet.playerId} {d e : Int} (h : Shifted a b d)
    (h' : Shifted b c e) : Shifted a c (d + e) := by
  refine ⟨?_, fun playerId => (h'.locked playerId).trans (h.locked playerId)⟩
  rw [h'.total, h.total]
  omega

theorem Shifted.save {wallets : Table PlayerWallet.playerId} {v w : PlayerWallet}
    (hfind : wallets.findOne w.playerId = some v)
    (hlocked : w.lockedBalance = v.lockedBalance) :
    Shifted wallets (wallets.save w)
      (w.availableBalance - v.availableBalance) := by
  constructor
  · rw [Table.sum_save hfind]
    unfold PlayerWallet.getTotalBalance
    omega
  · intro playerId
    rw [Table.findOne_save]
    by_cases hplayer : playerId = w.playerId
    · rw [if_pos hplayer, hplayer, hfind, Option.map_some, Option.map_some, hlocked]
    · rw [if_neg hplayer]

theorem Shifted.isSome {wallets wallets' : Table PlayerWallet.playerId} {delta : Int}
    (h : Shifted wallets wallets' delta) (playerId : String) :
    (wallets'.findOne playerId).isSome = (wallets.findOne playerId).isSome := by
  have hlocked := congrArg Option.isSome (h.locked playerId)
  rwa [Option.isSome_map, Option.isSome_map] at hlocked

/-- Only wallets and their records differ, and the records account for the
    difference. -/
def FundsMove (s t : Db) : Prop :=
  ∃ (wallets : Table PlayerWallet.playerId) (txs : List WalletTransaction) (delta : Int),
    Shifted s.wallets wallets delta ∧ netDeposits txs = netDeposits s.walletTxs + delta ∧
    t = { s with wallets := wallets, walletTxs := txs }

theorem SameFunds.fundsMove {s t : Db} (h : SameFunds s t) : FundsMove s t := by
  rcases h with ⟨wallets, txs, rfl, hnet, rfl | ⟨wallet, wallet', hfind, hmoney, rfl⟩⟩
  · exact ⟨_, txs, 0, Shifted.refl _, by omega, rfl⟩
  · have hshift := Shifted.save hfind hmoney.2.2
    have havailable := hmoney.2.1
    exact ⟨_, txs, _, hshift, by omega, rfl⟩

/-! ### Effects -/

/-- The match has ended, one way or another. -/
def Match.over (m : Match) : Bool := [MatchStatus.COMPLETED, .SETTLED, .CANCELLED].contains m.status

/-- Someone has entered the match or tournament. -/
def Db.hasEntrant (db : Db) (source : SourceId) : Prop :=
  match source.sourceType with
  | .MATCH => ∃ p ∈ db.participants.rows, p.matchId = source.hex
  | .TOURNAMENT => ∃ r ∈ db.registrations.rows, r.tournamentId = source.hex

/-- The players registered for a tournament. -/
def registeredIds (registrations : Table TournamentRegistration.key) (tournamentId : String) :
    List String :=
  (registrations.find fun r => r.tournamentId = tournamentId).map TournamentRegistration.playerId

/-- The bracket of the tournament was built from its registered players. -/
def Seeded (registrations : Table TournamentRegistration.key) (t : Tournament) : Prop :=
  ∃ hex ids, t.bracket = some (generateBracketStructure t.bracketType hex ids) ∧
    ids.Perm (registeredIds registrations t.tournamentId)

/-- A refund of the escrow would go through. -/
def Db.refundable (db : Db) (source : SourceId) : Prop :=
  ∃ escrow, db.escrows.findOne source = some escrow ∧ escrow.canRefund = true ∧
    db.depositRows source ≠ []

/-- The escrow paid its deposits back, to its own log and to nobody. -/
def Refunded (s t : Db) (source : SourceId) : Prop :=
  ∃ escrow txs, s.escrows.findOne source = some escrow ∧ s.depositRows source ≠ [] ∧
    (∀ tx ∈ txs, tx.type ≠ .DEPOSIT) ∧
    t = (s.withEscrowTxs txs).withEscrow
      (escrow.afterRefund ((s.depositRows source).map EscrowTransaction.amount).sum)

/-- One kind of change a calm call makes. A refund is only among them when `R`
    holds. -/
inductive Effect (R : Prop) (s : Db) : Db → Prop where
  | funds {t : Db} (h : FundsMove s t) : Effect R s t
  | newWallet (wallet : PlayerWallet) (hnew : s.wallets.findOne wallet.playerId = none)
      (hid : wallet.playerId ≠ "") (havailable : wallet.availableBalance = 0)
      (hlocked : wallet.lockedBalance = 0) : Effect R s (s.withWallet wallet)
  | newMatch (m : Match) (request : CreateEscrowRequest) (hsource : request.source = m.source)
      (hnew : s.escrows.findOne request.source = none) (hfee : 0 < m.entryFee) :
      Effect R s { s with
        escrows := s.escrows.save (newEscrow request)
        matchRows := s.matchRows.save m }
  | newTournament (t : Tournament) (request : CreateEscrowRequest)
      (hsource : request.source = t.source) (hnew : s.escrows.findOne request.source = none)
      (hfee : 0 < t.entryFee) (hstatus : t.status = .DRAFT) :
      Effect R s { s with
        escrows := s.escrows.save (newEscrow request)
        tournaments := s.tournaments.save t }
  | join {α : Type} (entry : Entry α) (wallet : PlayerWallet) (escrow : EscrowAccount)
      (p : MatchParticipant) (hpaid : EntryPaid s entry wallet escrow)
      (hfee : 0 < entry.entryFee) (hsource : entry.source = matchSource p.matchId)
      (hplayer : p.playerId = entry.playerId) (hstatus : p.status = .JOINED)
      (hrow : ∃ m, s.matchRows.findOne p.matchId = some m) :
      Effect R s { s.afterEntry entry wallet escrow with
        participants := s.participants.save p }
  | register {α : Type} (entry : Entry α) (wallet : PlayerWallet) (escrow : EscrowAccount)
      (r : TournamentRegistration) (hpaid : EntryPaid s entry wallet escrow)
      (hfee : 0 < entry.entryFee) (hsource : entry.source = tournamentSource r.tournamentId)
      (hplayer : r.playerId = entry.playerId) (hstatus : r.status = .CONFIRMED)
      (hrow : ∃ t, s.tournaments.findOne r.tournamentId = some t ∧
        t.status = .REGISTRATION_OPEN) :
      Effect R s { s.afterEntry entry wallet escrow with
        registrations := s.registrations.save r }
  | matchRow (m m' : Match) (hfind : s.matchRows.findOne m'.matchId = some m)
      (hfee : m'.entryFee = m.entryFee) (hover : m.over = true → m'.over = true) :
      Effect R s { s with matchRows := s.matchRows.save m' }
  | tournamentRow (t t' : Tournament) (hfind : s.tournaments.findOne t'.tournamentId = some t)
      (hfee : t'.entryFee = t.entryFee)
      (hseeded : t'.status = .BRACKET_GENERATED → Seeded s.registrations t') :
      Effect R s { s with tournaments := s.tournaments.save t' }
  | participants (ps : Table MatchParticipant.key)
      (hkeys : ps.rows.map MatchParticipant.key = s.participants.rows.map MatchParticipant.key)
      (hstatus : ∀ p' ∈ ps.rows, ∃ p ∈ s.participants.rows, p'.key = p.key ∧
        (p'.status = p.status ∨ p'.status = .PLAYING ∨
          ∃ m, s.matchRows.findOne p'.matchId = some m ∧ m.over = true)) :
      Effect R s { s with participants := ps }
  | registrations (rs : Table TournamentRegistration.key)
      (hrows : rs.rows.map (fun r => (r.key, r.status)) =
        s.registrations.rows.map fun r => (r.key, r.status)) :
      Effect R s { s with registrations := rs }
  | escrowStatus (escrow : EscrowAccount) (status : EscrowStatus)
      (hfind : s.escrows.findOne escrow.escrowId = some escrow) :
      Effect R s (s.withEscrow { escrow with status := status })
  | prizes (ps : List PrizeDistribution) : Effect R s (s.withPrizes ps)
  | payout (escrow : EscrowAccount) (total fee : Int) (txs : List EscrowTransaction)
      (wallets : Table PlayerWallet.playerId) (walletTxs : List WalletTransaction)
      (credited : List (SourceId × Int)) (hfind : s.escrows.findOne escrow.escrowId = some escrow)
      (htxs : ∀ tx ∈ txs, tx.type ≠ .DEPOSIT) (hwallets : Shifted s.wallets wallets total)
      (hnet : netDeposits walletTxs = netDeposits s.walletTxs) :
      Effect R s { s with
        escrows := s.escrows.save (escrow.afterRelease total fee)
        escrowTxs := s.escrowTxs ++ txs
        wallets := wallets
        walletTxs := walletTxs
        credited := credited }
  | refund {t : Db} (source : SourceId) (hR : R) (h : Refunded s t source) : Effect R s t

/-- A chain of effects. -/
abbrev Effects (R : Prop) : Db → Db → Prop := Relation.ReflTransGen (Effect R)

/-! ### The invariant -/

/-- The invariant of calm runs. -/
structure Ledger (db : Db) : Prop where
  wallets : ∀ w ∈ db.wallets.rows, w.lockedBalance = 0 ∧ w.playerId ≠ ""
  matchRows : ∀ m ∈ db.matchRows.rows, 0 < m.entryFee ∧
    ∃ escrow, db.escrows.findOne m.source = some escrow
  tournaments : ∀ t ∈ db.tournaments.rows, 0 < t.entryFee ∧
    (∃ escrow, db.escrows.findOne t.source = some escrow) ∧
    (t.status = .BRACKET_GENERATED → Seeded db.registrations t)
  participants : ∀ p ∈ db.participants.rows, (∃ w, db.wallets.findOne p.playerId = some w) ∧
    ∃ m, db.matchRows.findOne p.matchId = some m ∧
      (m.over = false → p.status = .JOINED ∨ p.status = .PLAYING)
  registrations : ∀ r ∈ db.registrations.rows, r.status = .CONFIRMED ∧
    ∃ w, db.wallets.findOne r.playerId = some w
  deposits : ∀ tx ∈ db.escrowTxs, tx.type = .DEPOSIT → 0 < tx.amount ∧ db.hasEntrant tx.escrowId

theorem ledger_empty : Ledger Db.empty where
  wallets _ h := absurd h List.not_mem_nil
  matchRows _ h := absurd h List.not_mem_nil
  tournaments _ h := absurd h List.not_mem_nil
  participants _ h := absurd h List.not_mem_nil
  registrations _ h := absurd h List.not_mem_nil
  deposits _ h := absurd h List.not_mem_nil

section Keeping

variable {R : Prop} {s t : Db}

/-- The invariant moves along with a change of money: wallets stay without
    locked funds, no wallet or escrow disappears and no deposit appears. -/
theorem Ledger.transport (h : Ledger s)
    (hwallets : ∀ w ∈ t.wallets.rows, w.lockedBalance = 0 ∧ w.playerId ≠ "")
    (hplayers : ∀ id w, s.wallets.findOne id = some w → ∃ w', t.wallets.findOne id = some w')
    (hescrows : ∀ source e, s.escrows.findOne source = some e →
      ∃ e', t.escrows.findOne source = some e')
    (hdeposits : ∀ tx ∈ t.escrowTxs, tx.type = .DEPOSIT → tx ∈ s.escrowTxs)
    (hmatches : t.matchRows = s.matchRows) (htournaments : t.tournaments = s.tournaments)
    (hparticipants : t.participants = s.participants)
    (hregistrations : t.registrations = s.registrations) : Ledger t where
  wallets := hwallets
  matchRows m hm := by
    rcases h.matchRows m (hmatches ▸ hm) with ⟨hfee, escrow, he⟩
    exact ⟨hfee, hescrows _ _ he⟩
  tournaments x hx := by
    rcases h.tournaments x (htournaments ▸ hx) with ⟨hfee, ⟨escrow, he⟩, hseeded⟩
    exact ⟨hfee, hescrows _ _ he, hregistrations ▸ hseeded⟩
  participants p hp := by
    rcases h.participants p (hparticipants ▸ hp) with ⟨⟨w, hw⟩, hrow⟩
    exact ⟨hplayers _ _ hw, hmatches ▸ hrow⟩
  registrations r hr := by
    rcases h.registrations r (hregistrations ▸ hr) with ⟨hstatus, w, hw⟩
    exact ⟨hstatus, hplayers _ _ hw⟩
  deposits tx htx htype := by
    -- A deposit keeps its entrant, since the rows of the entrants are the same.
    rcases h.deposits tx (hdeposits tx htx htype) htype with ⟨hamount, hentrant⟩
    refine ⟨hamount, ?_⟩
    unfold Db.hasEntrant at hentrant ⊢
    rwa [hparticipants, hregistrations]

/-- Shifting money between unlocked wallets leaves them unlocked. -/
theorem Ledger.shifted (h : Ledger s) {wallets : Table PlayerWallet.playerId} {delta : Int}
    (hw : Shifted s.wallets wallets delta) :
    (∀ w ∈ wallets.rows, w.lockedBalance = 0 ∧ w.playerId ≠ "") ∧
      ∀ id w, s.wallets.findOne id = some w → ∃ w', wallets.findOne id = some w' := by
  -- A shift adds and drops no wallet, and leaves what is locked.
  constructor
  · intro w hmem
    have hfind := Table.findOne_of_mem hmem
    have hlocked := hw.locked w.playerId
    rw [hfind, Option.map_some] at hlocked
    rcases Option.map_eq_some_iff.mp hlocked.symm with ⟨old, hold, heq⟩
    have hbefore := h.wallets old (Table.mem_of_findOne hold)
    rw [Table.key_of_findOne hold] at hbefore
    exact ⟨heq.symm.trans hbefore.1, hbefore.2⟩
  · intro id w hfind
    have hsome := hw.isSome id
    rw [hfind] at hsome
    exact Option.isSome_iff_exists.mp hsome

/-- The wallets after an entry are the ones before, less the fee. -/
theorem EntryPaid.shifted {α : Type} {entry : Entry α} {wallet : PlayerWallet}
    {escrow : EscrowAccount} (h : EntryPaid s entry wallet escrow) :
    Shifted s.wallets (s.wallets.save (wallet.afterCharge entry.entryFee)) (-entry.entryFee) := by
  have hkey : wallet.playerId = entry.playerId := Table.key_of_findOne h.findWallet
  have hshift := Shifted.save (v := wallet) (w := wallet.afterCharge entry.entryFee)
    (hkey ▸ h.findWallet) (Int.add_sub_cancel _ _)
  have hdelta : (wallet.afterCharge entry.entryFee).availableBalance - wallet.availableBalance =
      -entry.entryFee := by
    simp only [PlayerWallet.afterCharge, PlayerWallet.afterLock]
    omega
  rwa [hdelta] at hshift

theorem registeredIds_save {registrations : Table TournamentRegistration.key}
    {r : TournamentRegistration} {tournamentId : String} (h : r.tournamentId ≠ tournamentId) :
    registeredIds (registrations.save r) tournamentId =
      registeredIds registrations tournamentId := by
  unfold registeredIds
  rw [Table.find_save_of_not]
  intro v hv
  have hsame : v.tournamentId = r.tournamentId := congrArg Prod.fst hv
  rw [hsame, decide_eq_false_iff_not]
  exact h

/-- The registered players are read off the keys. -/
theorem registeredIds_eq (registrations : Table TournamentRegistration.key)
    (tournamentId : String) : registeredIds registrations tournamentId =
      ((registrations.rows.map TournamentRegistration.key).filter
        fun k => k.1 = tournamentId).map Prod.snd := by
  unfold registeredIds Table.find
  rw [List.filter_map, List.map_map]
  rfl

theorem hasEntrant_saveParticipant {p : MatchParticipant} {source : SourceId}
    (hparticipants : t.participants = s.participants.save p)
    (hregistrations : t.registrations = s.registrations)
    (h : source = matchSource p.matchId ∨ s.hasEntrant source) : t.hasEntrant source := by
  rcases h with rfl | h
  · exact ⟨p, hparticipants ▸ Table.mem_save.mpr (Or.inl rfl), rfl⟩
  · unfold Db.hasEntrant at h ⊢
    rw [hparticipants, hregistrations]
    split
    · next hmatch =>
        rw [hmatch] at h
        rcases h with ⟨q, hq, hid⟩
        -- The participant there was may have been the one that is saved.
        by_cases hsame : q.key = p.key
        · exact ⟨p, Table.mem_save.mpr (Or.inl rfl), (congrArg Prod.fst hsame).symm.trans hid⟩
        · exact ⟨q, Table.mem_save.mpr (Or.inr ⟨hq, hsame⟩), hid⟩
    · next htournament =>
        rw [htournament] at h
        exact h

theorem hasEntrant_saveRegistration {r : TournamentRegistration} {source : SourceId}
    (hparticipants : t.participants = s.participants)
    (hregistrations : t.registrations = s.registrations.save r)
    (h : source = tournamentSource r.tournamentId ∨ s.hasEntrant source) :
    t.hasEntrant source := by
  rcases h with rfl | h
  · exact ⟨r, hregistrations ▸ Table.mem_save.mpr (Or.inl rfl), rfl⟩
  · unfold Db.hasEntrant at h ⊢
    rw [hparticipants, hregistrations]
    split
    · next hmatch =>
        rw [hmatch] at h
        exact h
    · next htournament =>
        rw [htournament] at h
        rcases h with ⟨q, hq, hid⟩
        -- The registration there was may have been the one that is saved.
        by_cases hsame : q.key = r.key
        · exact ⟨r, Table.mem_save.mpr (Or.inl rfl), (congrArg Prod.fst hsame).symm.trans hid⟩
        · exact ⟨q, Table.mem_save.mpr (Or.inr ⟨hq, hsame⟩), hid⟩

/-- Rows with the same keys have the same entrants. -/
theorem hasEntrant_of_keys {source : SourceId}
    (hparticipants : t.participants.rows.map MatchParticipant.key =
      s.participants.rows.map MatchParticipant.key)
    (hregistrations : t.registrations.rows.map TournamentRegistration.key =
      s.registrations.rows.map TournamentRegistration.key)
    (h : s.hasEntrant source) : t.hasEntrant source := by
  unfold Db.hasEntrant at h ⊢
  split
  · -- An entrant of a match is a participant, and one of a tournament a registration.
    next hmatch =>
      rw [hmatch] at h
      rcases h with ⟨p, hp, hid⟩
      have hmem : p.key ∈ t.participants.rows.map MatchParticipant.key :=
        hparticipants ▸ List.mem_map_of_mem hp
      rcases List.mem_map.mp hmem with ⟨p', hp', hkey⟩
      exact ⟨p', hp', (congrArg Prod.fst hkey).trans hid⟩
  · next htournament =>
      rw [htournament] at h
      rcases h with ⟨r, hr, hid⟩
      have hmem : r.key ∈ t.registrations.rows.map TournamentRegistration.key :=
        hregistrations ▸ List.mem_map_of_mem hr
      rcases List.mem_map.mp hmem with ⟨r', hr', hkey⟩
      exact ⟨r', hr', (congrArg Prod.fst hkey).trans hid⟩

/-- A match is saved with its escrow in place. Its participants stay in it while it
    is not over. -/
theorem Ledger.saveMatch (h : Ledger s) {m : Match} (hfee : 0 < m.entryFee)
    (hescrow : ∃ escrow, s.escrows.findOne m.source = some escrow)
    (hover : ∀ p ∈ s.participants.rows, p.matchId = m.matchId → m.over = false →
      p.status = .JOINED ∨ p.status = .PLAYING) :
    Ledger { s with matchRows := s.matchRows.save m } where
  wallets := h.wallets
  matchRows m' hm' := by
    rcases Table.mem_save.mp hm' with rfl | ⟨hold, -⟩
    · exact ⟨hfee, hescrow⟩
    · exact h.matchRows m' hold
  tournaments := h.tournaments
  participants p hp := by
    rcases h.participants p hp with ⟨hw, row, hrow, hstatus⟩
    refine ⟨hw, ?_⟩
    -- The participants of the saved match refer to the new row.
    by_cases hsame : p.matchId = m.matchId
    · exact ⟨m, hsame ▸ Table.findOne_save_self _ _, hover p hp hsame⟩
    · exact ⟨row, (Table.findOne_save_of_ne hsame).trans hrow, hstatus⟩
  registrations := h.registrations
  deposits := h.deposits

/-- A tournament is saved with its escrow in place. -/
theorem Ledger.saveTournament (h : Ledger s) {x : Tournament} (hfee : 0 < x.entryFee)
    (hescrow : ∃ escrow, s.escrows.findOne x.source = some escrow)
    (hseeded : x.status = .BRACKET_GENERATED → Seeded s.registrations x) :
    Ledger { s with tournaments := s.tournaments.save x } where
  wallets := h.wallets
  matchRows := h.matchRows
  tournaments x' hx' := by
    rcases Table.mem_save.mp hx' with rfl | ⟨hold, -⟩
    · exact ⟨hfee, hescrow, hseeded⟩
    · exact h.tournaments x' hold
  participants := h.participants
  registrations := h.registrations
  deposits := h.deposits

/-- A player with a wallet joins a match. -/
theorem Ledger.saveParticipant (h : Ledger s) {p : MatchParticipant}
    (hwallet : ∃ w, s.wallets.findOne p.playerId = some w)
    (hrow : ∃ m, s.matchRows.findOne p.matchId = some m) (hstatus : p.status = .JOINED) :
    Ledger { s with participants := s.participants.save p } where
  wallets := h.wallets
  matchRows := h.matchRows
  tournaments := h.tournaments
  participants q hq := by
    rcases Table.mem_save.mp hq with rfl | ⟨hold, -⟩
    · rcases hrow with ⟨m, hm⟩
      exact ⟨hwallet, m, hm, fun _ => Or.inl hstatus⟩
    · exact h.participants q hold
  registrations := h.registrations
  deposits tx htx htype := by
    rcases h.deposits tx htx htype with ⟨hamount, hentrant⟩
    exact ⟨hamount, hasEntrant_saveParticipant (s := s) (p := p) rfl rfl (Or.inr hentrant)⟩

/-- A player with a wallet registers for a tournament without a bracket. -/
theorem Ledger.saveRegistration (h : Ledger s) {r : TournamentRegistration}
    (hwallet : ∃ w, s.wallets.findOne r.playerId = some w) (hstatus : r.status = .CONFIRMED)
    (hopen : ∀ x ∈ s.tournaments.rows, x.status = .BRACKET_GENERATED →
      r.tournamentId ≠ x.tournamentId) :
    Ledger { s with registrations := s.registrations.save r } where
  wallets := h.wallets
  matchRows := h.matchRows
  tournaments x hx := by
    rcases h.tournaments x hx with ⟨hfee, hescrow, hseeded⟩
    refine ⟨hfee, hescrow, fun hgenerated => ?_⟩
    -- A bracket has been made of the players there were, and none is added to them.
    rcases hseeded hgenerated with ⟨hex, ids, hbracket, hids⟩
    exact ⟨hex, ids, hbracket, (registeredIds_save (hopen x hx hgenerated)).symm ▸ hids⟩
  participants := h.participants
  registrations r' hr' := by
    rcases Table.mem_save.mp hr' with rfl | ⟨hold, -⟩
    · exact ⟨hstatus, hwallet⟩
    · exact h.registrations r' hold
  deposits tx htx htype := by
    rcases h.deposits tx htx htype with ⟨hamount, hentrant⟩
    exact ⟨hamount, hasEntrant_saveRegistration (s := s) (r := r) rfl rfl (Or.inr hentrant)⟩

/-- A deposit is recorded for a source with an entrant. -/
theorem Ledger.deposit (h : Ledger s) {tx : EscrowTransaction} (hamount : 0 < tx.amount)
    (hentrant : s.hasEntrant tx.escrowId) :
    Ledger { s with escrowTxs := s.escrowTxs ++ [tx] } where
  wallets := h.wallets
  matchRows := h.matchRows
  tournaments := h.tournaments
  participants := h.participants
  registrations := h.registrations
  deposits tx' htx' htype := by
    rcases List.mem_append.mp htx' with hold | hnew
    · exact h.deposits tx' hold htype
    · rw [List.mem_singleton.mp hnew]
      exact ⟨hamount, hentrant⟩

/-- A new escrow takes nothing away from anybody. -/
theorem Ledger.saveEscrow (h : Ledger s) (escrow : EscrowAccount) :
    Ledger { s with escrows := s.escrows.save escrow } :=
  h.transport h.wallets (fun _ w hw => ⟨w, hw⟩) (fun _ _ he => Table.exists_findOne_save he _)
    (fun _ htx _ => htx) rfl rfl rfl rfl

/-- Paying for an entry moves money only, its deposit aside. -/
theorem Ledger.paid {α : Type} {entry : Entry α} {wallet : PlayerWallet} {escrow : EscrowAccount}
    (h : Ledger s) (hpaid : EntryPaid s entry wallet escrow) :
    Ledger { s.afterEntry entry wallet escrow with escrowTxs := s.escrowTxs } ∧
      ∃ w, (s.afterEntry entry wallet escrow).wallets.findOne entry.playerId = some w := by
  have hshift := h.shifted hpaid.shifted
  refine ⟨h.transport hshift.1 hshift.2 (fun _ _ he => Table.exists_findOne_save he _)
    (fun _ htx _ => htx) rfl rfl rfl rfl, hshift.2 _ _ hpaid.findWallet⟩

/-- A new wallet has nothing locked. -/
theorem Ledger.newWallet (h : Ledger s) {wallet : PlayerWallet} (hid : wallet.playerId ≠ "")
    (hlocked : wallet.lockedBalance = 0) : Ledger (s.withWallet wallet) := by
  refine h.transport (fun w hw => ?_) (fun id w hw => Table.exists_findOne_save hw wallet)
    (fun _ e he => ⟨e, he⟩) (fun _ htx _ => htx) rfl rfl rfl rfl
  rcases Table.mem_save.mp hw with rfl | ⟨hold, -⟩
  · exact ⟨hlocked, hid⟩
  · exact h.wallets w hold

/-- A new match comes with its escrow, and nobody has joined it. -/
theorem Ledger.newMatch (h : Ledger s) {m : Match} {request : CreateEscrowRequest}
    (hsource : request.source = m.source) (hnew : s.escrows.findOne request.source = none)
    (hfee : 0 < m.entryFee) :
    Ledger { s with
      escrows := s.escrows.save (newEscrow request)
      matchRows := s.matchRows.save m } := by
  refine (h.saveEscrow (newEscrow request)).saveMatch hfee
    ⟨newEscrow request, hsource ▸ Table.findOne_save_self _ _⟩ fun p hp heq => ?_
  -- A match with participants has an escrow, and the new one had none.
  rcases h.participants p hp with ⟨-, row, hrow, -⟩
  have hkey : row.matchId = p.matchId := Table.key_of_findOne hrow
  rcases (h.matchRows row (Table.mem_of_findOne hrow)).2 with ⟨escrow, he⟩
  have hsame : row.source = m.source := congrArg matchSource (hkey.trans heq)
  rw [hsame, ← hsource, hnew] at he
  exact nomatch he

/-- A tournament that is open for registration has no bracket yet. -/
theorem ne_of_registrationOpen {r : TournamentRegistration}
    (hrow : ∃ x, s.tournaments.findOne r.tournamentId = some x ∧ x.status = .REGISTRATION_OPEN)
    {x : Tournament} (hx : x ∈ s.tournaments.rows) (hgenerated : x.status = .BRACKET_GENERATED) :
    r.tournamentId ≠ x.tournamentId := by
  intro heq
  rcases hrow with ⟨open_, hopen, hstatus⟩
  have hsame : open_ = x := Option.some.inj (hopen.symm.trans (heq ▸ Table.findOne_of_mem hx))
  rw [hsame, hgenerated] at hstatus
  exact nomatch hstatus

/-- A match that is over stays over. -/
theorem Ledger.changeMatch (h : Ledger s) {m m' : Match}
    (hfind : s.matchRows.findOne m'.matchId = some m) (hfee : m'.entryFee = m.entryFee)
    (hover : m.over = true → m'.over = true) :
    Ledger { s with matchRows := s.matchRows.save m' } := by
  have hrow := h.matchRows m (Table.mem_of_findOne hfind)
  have hsame : m'.source = m.source := congrArg matchSource (Table.key_of_findOne hfind).symm
  refine h.saveMatch (hfee ▸ hrow.1) (hsame ▸ hrow.2) fun p hp hid hlive => ?_
  rcases h.participants p hp with ⟨-, row, hfound, hstatus⟩
  obtain rfl : row = m := Option.some.inj (hfound.symm.trans (hid ▸ hfind))
  refine hstatus ?_
  by_contra hnot
  rw [hover (Bool.not_eq_false _ ▸ hnot)] at hlive
  exact nomatch hlive

/-- Participants stay who they are, and one of a match that is not over stays in it. -/
theorem Ledger.changeParticipants (h : Ledger s) {ps : Table MatchParticipant.key}
    (hkeys : ps.rows.map MatchParticipant.key = s.participants.rows.map MatchParticipant.key)
    (hstatus : ∀ p' ∈ ps.rows, ∃ p ∈ s.participants.rows, p'.key = p.key ∧
      (p'.status = p.status ∨ p'.status = .PLAYING ∨
        ∃ m, s.matchRows.findOne p'.matchId = some m ∧ m.over = true)) :
    Ledger { s with participants := ps } := by
  refine ⟨h.wallets, h.matchRows, h.tournaments, fun p' hp' => ?_, h.registrations,
    fun tx htx htype => ?_⟩
  · rcases hstatus p' hp' with ⟨p, hp, hkey, hwhy⟩
    rcases h.participants p hp with ⟨hw, row, hrow, hlive⟩
    have hid : p'.matchId = p.matchId := congrArg Prod.fst hkey
    have hplayer : p'.playerId = p.playerId := congrArg Prod.snd hkey
    refine ⟨hplayer ▸ hw, row, hid ▸ hrow, fun hnot => ?_⟩
    -- The status is as before, or playing, or the match is over.
    rcases hwhy with hsame | hplaying | ⟨m, hm, hover⟩
    · exact hsame ▸ hlive hnot
    · exact Or.inr hplaying
    · rw [hid, hrow] at hm
      rw [Option.some.inj hm, hover] at hnot
      exact nomatch hnot
  · rcases h.deposits tx htx htype with ⟨hamount, hentrant⟩
    exact ⟨hamount, hasEntrant_of_keys (s := s) hkeys rfl hentrant⟩

/-- Registrations stay whose they are and what they are. -/
theorem Ledger.changeRegistrations (h : Ledger s) {rs : Table TournamentRegistration.key}
    (hrows : rs.rows.map (fun r => (r.key, r.status)) =
      s.registrations.rows.map fun r => (r.key, r.status)) :
    Ledger { s with registrations := rs } := by
  have hkeys : rs.rows.map TournamentRegistration.key =
      s.registrations.rows.map TournamentRegistration.key := by
    have hfst := congrArg (List.map Prod.fst) hrows
    rwa [List.map_map, List.map_map] at hfst
  -- The bracket was seeded with the same players.
  have hids : registeredIds rs = registeredIds s.registrations := by
    funext tournamentId
    rw [registeredIds_eq, registeredIds_eq, hkeys]
  refine ⟨h.wallets, h.matchRows, fun x hx => ?_, h.participants, fun r' hr' => ?_,
    fun tx htx htype => ?_⟩
  · rcases h.tournaments x hx with ⟨hfee, hescrow, hseeded⟩
    refine ⟨hfee, hescrow, fun hgenerated => ?_⟩
    rcases hseeded hgenerated with ⟨hex, ids, hbracket, hperm⟩
    exact ⟨hex, ids, hbracket, hids.symm ▸ hperm⟩
  · have hmem : (r'.key, r'.status) ∈ rs.rows.map fun r => (r.key, r.status) :=
      List.mem_map_of_mem (f := fun r : TournamentRegistration => (r.key, r.status)) hr'
    rw [hrows] at hmem
    rcases List.mem_map.mp hmem with ⟨r, hr, heq⟩
    simp only [Prod.mk.injEq] at heq
    have hplayer : r.playerId = r'.playerId := congrArg Prod.snd heq.1
    exact heq.2 ▸ hplayer ▸ h.registrations r hr
  · rcases h.deposits tx htx htype with ⟨hamount, hentrant⟩
    exact ⟨hamount, hasEntrant_of_keys (s := s) rfl hkeys hentrant⟩

/-- What an escrow pays out is no deposit. -/
theorem mem_of_append_payments {txs : List EscrowTransaction}
    (htxs : ∀ tx ∈ txs, tx.type ≠ .DEPOSIT) {tx : EscrowTransaction}
    (htx : tx ∈ s.escrowTxs ++ txs) (htype : tx.type = .DEPOSIT) : tx ∈ s.escrowTxs := by
  rcases List.mem_append.mp htx with hold | hnew
  · exact hold
  · exact absurd htype (htxs tx hnew)

/-- Every effect keeps the invariant. -/
theorem effect_ledger (h : Effect R s t) (hs : Ledger s) : Ledger t := by
  cases h with
  | funds h =>
      rcases h with ⟨wallets, txs, delta, hshift, -, rfl⟩
      exact hs.transport (hs.shifted hshift).1 (hs.shifted hshift).2 (fun _ e he => ⟨e, he⟩)
        (fun _ htx _ => htx) rfl rfl rfl rfl
  | newWallet wallet hnew hid havailable hlocked => exact hs.newWallet hid hlocked
  | newMatch m request hsource hnew hfee => exact hs.newMatch hsource hnew hfee
  | newTournament x request hsource hnew hfee hstatus =>
      refine (hs.saveEscrow (newEscrow request)).saveTournament hfee
        ⟨newEscrow request, hsource ▸ Table.findOne_save_self _ _⟩ fun hgenerated => ?_
      rw [hstatus] at hgenerated
      exact nomatch hgenerated
  | join entry wallet escrow p hpaid hfee hsource hplayer hstatus hrow =>
      -- First the money of an entry, then its row, and then the deposit it stands
      -- for.
      rcases hs.paid hpaid with ⟨hmoney, hwallet⟩
      have hjoined := hmoney.saveParticipant (hplayer ▸ hwallet) hrow hstatus
      exact hjoined.deposit hfee
        (hasEntrant_saveParticipant (s := s) (p := p) rfl rfl (Or.inl hsource))
  | register entry wallet escrow r hpaid hfee hsource hplayer hstatus hrow =>
      rcases hs.paid hpaid with ⟨hmoney, hwallet⟩
      have hregistered := hmoney.saveRegistration (hplayer ▸ hwallet) hstatus
        fun x hx hgenerated => ne_of_registrationOpen hrow hx hgenerated
      exact hregistered.deposit hfee
        (hasEntrant_saveRegistration (s := s) (r := r) rfl rfl (Or.inl hsource))
  | matchRow m m' hfind hfee hover => exact hs.changeMatch hfind hfee hover
  | tournamentRow x x' hfind hfee hseeded =>
      have hrow := hs.tournaments x (Table.mem_of_findOne hfind)
      have hsame : x'.source = x.source :=
        congrArg tournamentSource (Table.key_of_findOne hfind).symm
      exact hs.saveTournament (hfee ▸ hrow.1) (hsame ▸ hrow.2.1) hseeded
  | participants ps hkeys hstatus => exact hs.changeParticipants hkeys hstatus
  | registrations rs hrows => exact hs.changeRegistrations hrows
  | escrowStatus escrow status hfind => exact hs.saveEscrow _
  | prizes ps =>
      exact hs.transport hs.wallets (fun _ w hw => ⟨w, hw⟩) (fun _ e he => ⟨e, he⟩)
        (fun _ htx _ => htx) rfl rfl rfl rfl
  | payout escrow total fee txs wallets walletTxs credited hfind htxs hwallets hnet =>
      -- A payout and a refund move money, and neither logs a deposit.
      exact hs.transport (hs.shifted hwallets).1 (hs.shifted hwallets).2
        (fun _ e he => Table.exists_findOne_save he _)
        (fun _ htx htype => mem_of_append_payments htxs htx htype) rfl rfl rfl rfl
  | refund source hR h =>
      rcases h with ⟨escrow, txs, -, -, htxs, rfl⟩
      exact hs.transport hs.wallets (fun _ w hw => ⟨w, hw⟩)
        (fun _ e he => Table.exists_findOne_save he _)
        (fun _ htx htype => mem_of_append_payments htxs htx htype) rfl rfl rfl rfl

theorem effects_ledger (h : Effects R s t) (hs : Ledger s) : Ledger t := by
  induction h with
  | refl => exact hs
  | tail _ hlast ih => exact effect_ledger hlast ih

end Keeping

end Esports

end SvmCourse
