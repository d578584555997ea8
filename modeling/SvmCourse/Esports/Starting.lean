import SvmCourse.Esports.System

/-!
# Starting a Tournament

Starting a tournament creates a match for every first-round pairing, with an
entry fee of zero, since the players have paid for the tournament. The match
service accepts no such fee for any token. So the first pairing throws before
anything is written, and a tournament with a pairing never starts.

That a bracket has a pairing is a property of reachable stores: a bracket is
built from the registered players, their ids are not empty strings, and nobody
registers afterwards. This is the invariant `Bracketed`, which every call keeps
under every refusal. All but a few calls keep it because they touch neither
tournaments nor registrations, which is what the frame rule is for.

## Main definitions

* `Bracketed`: Generated brackets are built from the registered players.
* `bracketView`: The part of the store it is about.
* `StartsAtomically`: What starting a tournament should do.

## Theorems

* `bracketed_after`: The invariant holds after every run.
* `pairings_ne_nil`: A bracket for two players begins with a pairing.
* `startTournament_never_starts`: No tournament with two players starts.
-/

namespace SvmCourse

namespace Esports

open Core Core.Prog

/-! ### Calls that leave tournaments alone -/

/-- The tournaments, and the keys of the registrations with whether they
    count. -/
def bracketView (db : Db) : Table Tournament.tournamentId × List ((String × String) × Bool) :=
  (db.tournaments, db.registrations.rows.map fun r => (r.key, r.isCounted))

/-- The rows of matches and tournaments and of those who entered them. -/
def rowsView (db : Db) :=
  (db.matchRows, db.participants, db.tournaments, db.registrations)

/-- The view is about these rows alone. -/
class ReadsRows {A : Type} (view : Db → A) : Prop where
  congr : ∀ {s t : Db}, rowsView t = rowsView s → view t = view s

instance : ReadsRows bracketView where
  congr h := by
    simp only [rowsView, Prod.mk.injEq] at h
    unfold bracketView
    rw [h.2.2.1, h.2.2.2]

instance : ReadsRows Db.participants where
  congr h := by
    simp only [rowsView, Prod.mk.injEq] at h
    exact h.2.1

section Frames

variable {α A : Type} {view : Db → A} [ReadsRows view]

theorem query_frames {act : Db → α × Db} (h : ∀ db, (act db).2.tournaments = db.tournaments ∧
    (act db).2.registrations = db.registrations) : (query act).Frames bracketView := by
  refine frames_perform fun db => ?_
  unfold bracketView
  rw [(h db).1, (h db).2]

/-- Wallets, escrows and prize records are not in view. -/
theorem money_frames {act : Db → α × Db} (h : ∀ db, rowsView (act db).2 = rowsView db) :
    (query act).Frames view :=
  frames_perform fun db => ReadsRows.congr (h db)

theorem getWallet_frames (playerId : String) : (getWallet playerId).Frames view :=
  frames_bind (money_frames fun _ => rfl) fun _ => frames_demand _ _

theorem createWallet_frames (request : CreatePlayerWalletRequest) :
    (createWallet request).Frames view :=
  frames_bind (money_frames fun _ => rfl) fun _ => frames_bind (frames_require _ _) fun _ =>
    frames_bind (frames_compute _) fun _ => money_frames fun _ => rfl

theorem moveFunds_frames (playerId : String) (allowed : PlayerWallet → Bool)
    (refusal : ServiceError) (record : PlayerWallet → WalletTransaction)
    {write : PlayerWallet → Db → Db} (hwrite : ∀ w db, rowsView (write w db) = rowsView db) :
    (moveFunds playerId allowed refusal record write).Frames view :=
  frames_bind (getWallet_frames _) fun _ => frames_bind (frames_require _ _) fun _ =>
    frames_bind (money_frames fun _ => rfl) fun _ =>
      frames_bind (money_frames fun db => hwrite _ db) fun _ => trivial

theorem deposit_frames (request : DepositRequest) : (deposit request).Frames view :=
  moveFunds_frames _ _ _ _ fun _ _ => rfl

theorem lockFunds_frames (request : LockFundsRequest) : (lockFunds request).Frames view :=
  moveFunds_frames _ _ _ _ fun _ _ => rfl

theorem unlockFunds_frames (request : LockFundsRequest) :
    (unlockFunds request).Frames view :=
  moveFunds_frames _ _ _ _ fun _ _ => rfl

theorem deductEntryFee_frames (playerId : String) (amount : Int) :
    (deductEntryFee playerId amount).Frames view :=
  frames_bind (getWallet_frames _) fun _ => frames_bind (frames_require _ _) fun _ =>
    money_frames fun _ => rfl

theorem withdraw_frames (request : WithdrawRequest) : (withdraw request).Frames view := by
  have hfail : ∀ id tx e, (failWithdrawal id tx e).Frames view :=
    fun _ _ _ => money_frames fun _ => rfl
  refine frames_bind (getWallet_frames _) fun wallet => frames_bind (frames_require _ _) fun _ =>
    frames_bind (frames_require _ _) fun _ => frames_bind ?_ fun _ => frames_bind ?_ fun _ =>
      frames_bind (money_frames fun _ => rfl) fun id =>
        frames_bind (frames_onError (frames_compute _) (hfail _ _)) fun _ =>
          frames_bind (frames_onError (frames_bind (money_frames fun _ => rfl) fun _ =>
            money_frames fun _ => rfl) (hfail _ _)) fun _ => trivial
  · -- The check saves the wallet when a new day begins, which is no part of the view.
    unfold checkWithdrawalLimits
    split
    · exact frames_bind (money_frames fun _ => rfl) fun _ =>
        frames_bind (frames_require _ _) fun _ => trivial
    · exact frames_bind (frames_require _ _) fun _ => trivial
  · unfold checkCooldown
    split
    · exact frames_require _ _
    · exact trivial

theorem getEscrow_frames (escrowId : SourceId) (refusal : ServiceError) :
    ((escrowRepository.findOne escrowId).bind fun escrow => demand escrow refusal).Frames view :=
  frames_bind (money_frames fun _ => rfl) fun _ => frames_demand _ _

theorem createEscrow_frames (request : CreateEscrowRequest) :
    (createEscrow request).Frames view :=
  frames_bind (money_frames fun _ => rfl) fun _ => frames_bind (frames_require _ _) fun _ =>
    frames_bind (money_frames fun _ => rfl) fun _ => trivial

theorem depositToEscrow_frames (request : DepositToEscrowRequest) :
    (depositToEscrow request).Frames view :=
  frames_bind (getEscrow_frames _ _) fun _ => frames_bind (frames_require _ _) fun _ =>
    frames_bind (money_frames fun _ => rfl) fun _ =>
      frames_bind (money_frames fun _ => rfl) fun _ => trivial

theorem lockEscrow_frames (escrowId : SourceId) : (lockEscrow escrowId).Frames view :=
  frames_bind (getEscrow_frames _ _) fun _ => frames_bind (frames_require _ _) fun _ =>
    frames_bind (money_frames fun _ => rfl) fun _ => trivial

theorem closeEscrow_frames (escrowId : SourceId) : (closeEscrow escrowId).Frames view :=
  frames_bind (getEscrow_frames _ _) fun _ => frames_bind (frames_require _ _) fun _ =>
    money_frames fun _ => rfl

theorem settleEscrow_frames (escrow : EscrowAccount) (transitional back : EscrowStatus)
    (txs : List EscrowTransaction) (settled : EscrowAccount) :
    (settleEscrow escrow transitional back txs settled).Frames view :=
  frames_bind (money_frames fun _ => rfl) fun _ =>
    frames_bind (frames_onError (frames_each fun _ => money_frames fun _ => rfl)
      fun _ => money_frames fun _ => rfl) fun _ =>
        frames_onError (money_frames fun _ => rfl) fun _ => money_frames fun _ => rfl

theorem releaseEscrow_frames (request : ReleaseEscrowRequest) :
    (releaseEscrow request).Frames view :=
  frames_bind (getEscrow_frames _ _) fun _ => frames_bind (frames_require _ _) fun _ =>
    frames_bind (frames_require _ _) fun _ => frames_bind (settleEscrow_frames ..) fun _ => trivial

theorem refundEscrow_frames (request : RefundEscrowRequest) :
    (refundEscrow request).Frames view :=
  frames_bind (getEscrow_frames _ _) fun _ => frames_bind (frames_require _ _) fun _ =>
    frames_bind (money_frames fun _ => rfl) fun _ => frames_bind (frames_require _ _) fun _ =>
      frames_bind (settleEscrow_frames ..) fun _ => trivial

/-- Remembering a prize leaves key and status of a row alone. -/
theorem markRegistration_frames (tournamentId : String) (dist : PrizeCalculation) :
    (markRegistration tournamentId dist).Frames bracketView := by
  refine frames_perform fun db => ?_
  unfold bracketView
  simp only [Prod.mk.injEq, true_and]
  exact Table.map_update fun _ _ _ => rfl

theorem creditAll_frames {source : SourceId} {mark : PrizeCalculation → Service Unit}
    (hmark : ∀ dist, (mark dist).Frames view) (dists : List PrizeCalculation)
    (record : PrizeDistribution) (total : Int) :
    (creditAll source mark dists record total).Frames view := by
  induction dists generalizing record total with
  | nil => exact trivial
  | cons dist rest ih =>
      refine frames_bind (frames_rescue (frames_bind (frames_bind ?_ fun _ => hmark dist) fun _ =>
        trivial) fun _ => trivial) fun _ => ih _ _
      exact moveFunds_frames _ _ _ _ fun _ _ => rfl

theorem distribute_frames {payout : Payout}
    (hmark : ∀ dist, (payout.mark dist).Frames view) :
    (distribute payout).Frames view := by
  have hfail : ∀ id record e, (failDistribution id record e).Frames view :=
    fun _ _ _ => money_frames fun _ => rfl
  exact frames_bind (getEscrow_frames _ _) fun _ => frames_bind (getEscrow_frames _ _) fun _ =>
    frames_bind (frames_compute _) fun _ => frames_bind (money_frames fun _ => rfl) fun _ =>
      frames_bind (frames_onError (releaseEscrow_frames _) (hfail _ _)) fun _ =>
        frames_bind (creditAll_frames hmark _ _ _) fun _ =>
          frames_bind (frames_onError (money_frames fun _ => rfl) (hfail _ _)) fun _ =>
            trivial

theorem getMatchById_frames (matchId : String) : (getMatchById matchId).Frames view :=
  frames_bind (money_frames fun _ => rfl) fun _ => frames_demand _ _

theorem createMatch_frames (request : CreateMatchRequest) :
    (createMatch request).Frames bracketView :=
  frames_bind (frames_require _ _) fun _ => frames_bind (frames_compute _) fun _ =>
    frames_bind (createEscrow_frames _) fun _ => frames_bind (query_frames fun _ => ⟨rfl, rfl⟩)
      fun _ => trivial

/-- Everything an entry does before its own rows. -/
theorem lockEntry_frames (entry : Entry α) : (lockEntry entry).Frames view :=
  frames_bind (getWallet_frames _) fun _ => frames_bind (lockFunds_frames _) fun _ => trivial

theorem rollbackEntry_frames (entry : Entry α) (error : ServiceError) :
    (rollbackEntry entry error).Frames view :=
  frames_bind (unlockFunds_frames _) fun _ => trivial

theorem enter_frames {entry : Entry α} (h : ∀ w, (entry.register w).Frames view) :
    (enter entry).Frames view :=
  frames_bind (lockEntry_frames entry) fun wallet => frames_onError
    (frames_bind (getEscrow_frames _ _) fun _ => frames_bind (depositToEscrow_frames _) fun _ =>
      frames_bind (deductEntryFee_frames _ _) fun _ => h wallet) (rollbackEntry_frames entry)

theorem joinMatch_frames (request : JoinMatchRequest) : (joinMatch request).Frames bracketView :=
  frames_bind (frames_bind (getMatchById_frames _) fun _ =>
      frames_bind (frames_require _ _) fun _ =>
      frames_bind (query_frames fun _ => ⟨rfl, rfl⟩) fun _ =>
      frames_bind (frames_require _ _) fun _ => trivial)
    fun _ => enter_frames fun _ =>
      frames_bind (query_frames fun _ => ⟨rfl, rfl⟩) fun _ =>
      frames_bind (query_frames fun _ => ⟨rfl, rfl⟩) fun _ => trivial

theorem startMatch_frames (matchId : String) (now : Int) :
    (startMatch matchId now).Frames bracketView :=
  frames_bind (getMatchById_frames _) fun _ => frames_bind (frames_require _ _) fun _ =>
    frames_bind (getEscrow_frames _ _) fun _ => frames_bind (lockEscrow_frames _) fun _ =>
      frames_bind (query_frames fun _ => ⟨rfl, rfl⟩) fun _ =>
        frames_bind (query_frames fun _ => ⟨rfl, rfl⟩) fun _ => trivial

theorem submitResult_frames (request : SubmitResultRequest) :
    (submitResult request).Frames bracketView :=
  frames_bind (getMatchById_frames _) fun _ => frames_bind (frames_require _ _) fun _ =>
    frames_bind (query_frames fun _ => ⟨rfl, rfl⟩) fun _ => frames_bind (frames_compute _) fun _ =>
      frames_bind (query_frames fun _ => ⟨rfl, rfl⟩) fun _ =>
        frames_bind (frames_each fun _ => query_frames fun _ => ⟨rfl, rfl⟩) fun _ =>
          frames_bind (frames_each fun _ => query_frames fun _ => ⟨rfl, rfl⟩) fun _ =>
            frames_bind (distribute_frames fun _ => query_frames fun _ => ⟨rfl, rfl⟩) fun _ =>
              frames_bind (query_frames fun _ => ⟨rfl, rfl⟩) fun _ => trivial

theorem cancelMatch_frames (matchId : String) (now : Int) :
    (cancelMatch matchId now).Frames bracketView :=
  frames_bind (getMatchById_frames _) fun _ => frames_bind (frames_require _ _) fun _ =>
    frames_bind (getEscrow_frames _ _) fun _ => frames_bind (refundEscrow_frames _) fun _ =>
      frames_bind (query_frames fun _ => ⟨rfl, rfl⟩) fun _ =>
        frames_bind (frames_each fun _ => frames_bind (unlockFunds_frames _) fun _ =>
          query_frames fun _ => ⟨rfl, rfl⟩) fun _ =>
            frames_bind (query_frames fun _ => ⟨rfl, rfl⟩) fun _ => trivial

theorem placeRegistration_frames (tournamentId : String) (placement : String × ℚ) :
    (placeRegistration tournamentId placement).Frames bracketView := by
  refine frames_perform fun db => ?_
  unfold bracketView
  simp only [Prod.mk.injEq, true_and]
  exact Table.map_update fun _ _ _ => rfl

theorem seedRegistration_frames (seeded : TournamentRegistration × Nat) :
    (seedRegistration seeded).Frames bracketView := by
  refine frames_perform fun db => ?_
  unfold bracketView
  simp only [Prod.mk.injEq, true_and]
  exact Table.map_update fun _ _ _ => rfl

theorem completeTournament_frames (t : Tournament) :
    (completeTournament t).Frames bracketView :=
  frames_bind (query_frames fun _ => ⟨rfl, rfl⟩) fun _ =>
    frames_bind (frames_each fun _ => placeRegistration_frames _ _) fun _ =>
      frames_bind (query_frames fun _ => ⟨rfl, rfl⟩) fun _ =>
        frames_bind (distribute_frames (markRegistration_frames _)) fun _ => trivial

end Frames

/-! ### The invariant -/

/-- Registered players have names, and a generated bracket was built from named
    players, all those among them who still count. -/
structure Bracketed (db : Db) : Prop where
  named : ∀ r ∈ db.registrations.rows, r.playerId ≠ ""
  seeded : ∀ x ∈ db.tournaments.rows, x.status = .BRACKET_GENERATED → ∃ hex ids,
    x.bracket = some (generateBracketStructure x.bracketType hex ids) ∧ (∀ id ∈ ids, id ≠ "") ∧
    ∀ r ∈ db.registrations.rows, r.tournamentId = x.tournamentId → r.isCounted = true →
      r.playerId ∈ ids

/-- A registration seen in the view is a registration. -/
theorem registration_of_view {s t : Db} (h : bracketView t = bracketView s)
    {r : TournamentRegistration} (hr : r ∈ t.registrations.rows) :
    ∃ r' ∈ s.registrations.rows, r'.key = r.key ∧ r'.isCounted = r.isCounted := by
  have hmem : (r.key, r.isCounted) ∈ (bracketView t).2 :=
    List.mem_map_of_mem (f := fun r : TournamentRegistration => (r.key, r.isCounted)) hr
  rw [h] at hmem
  rcases List.mem_map.mp hmem with ⟨r', hr', heq⟩
  exact ⟨r', hr', congrArg Prod.fst heq, congrArg Prod.snd heq⟩

theorem Bracketed.of_view {s t : Db} (hs : Bracketed s) (h : bracketView t = bracketView s) :
    Bracketed t := by
  have htournaments : t.tournaments = s.tournaments := congrArg Prod.fst h
  refine ⟨fun r hr => ?_, fun x hx hstatus => ?_⟩
  · rcases registration_of_view h hr with ⟨r', hr', hkey, -⟩
    have hplayer : r'.playerId = r.playerId := congrArg Prod.snd hkey
    exact hplayer ▸ hs.named r' hr'
  · rcases hs.seeded x (htournaments ▸ hx) hstatus with ⟨hex, ids, hbracket, hnamed, hids⟩
    refine ⟨hex, ids, hbracket, hnamed, fun r hr hid hcounted => ?_⟩
    rcases registration_of_view h hr with ⟨r', hr', hkey, hsame⟩
    have hplayer : r'.playerId = r.playerId := congrArg Prod.snd hkey
    have htournament : r'.tournamentId = r.tournamentId := congrArg Prod.fst hkey
    exact hplayer ▸ hids r' hr' (htournament.trans hid) (hsame.trans hcounted)

theorem Bracketed.saveTournament {s : Db} (hs : Bracketed s) {x : Tournament}
    (h : x.status = .BRACKET_GENERATED → ∃ hex ids,
      x.bracket = some (generateBracketStructure x.bracketType hex ids) ∧
      (∀ id ∈ ids, id ≠ "") ∧ ∀ r ∈ s.registrations.rows, r.tournamentId = x.tournamentId →
        r.isCounted = true → r.playerId ∈ ids) :
    Bracketed { s with tournaments := s.tournaments.save x } := by
  refine ⟨hs.named, fun y hy hstatus => ?_⟩
  rcases Table.mem_save.mp hy with rfl | ⟨hold, -⟩
  · exact h hstatus
  · exact hs.seeded y hold hstatus

/-- A registration may be saved when it does not count or its tournament has no
    bracket yet. -/
theorem Bracketed.saveRegistration {s : Db} (hs : Bracketed s) {r : TournamentRegistration}
    (hnamed : r.playerId ≠ "") (h : r.isCounted = true → ∀ x ∈ s.tournaments.rows,
      r.tournamentId = x.tournamentId → x.status ≠ .BRACKET_GENERATED) :
    Bracketed { s with registrations := s.registrations.save r } := by
  refine ⟨fun r' hr' => ?_, fun x hx hstatus => ?_⟩
  · rcases Table.mem_save.mp hr' with rfl | ⟨hold, -⟩
    · exact hnamed
    · exact hs.named r' hold
  · rcases hs.seeded x hx hstatus with ⟨hex, ids, hbracket, hnames, hids⟩
    refine ⟨hex, ids, hbracket, hnames, fun r' hr' hid hcounted => ?_⟩
    rcases Table.mem_save.mp hr' with rfl | ⟨hold, -⟩
    · exact absurd hstatus (h hcounted x hx hid)
    · exact hids r' hold hid hcounted

section Keeping

variable {C : Prop} {s : Db}

/-- The method keeps the invariant, whatever is refused. -/
def KeepsBrackets (C : Prop) {α : Type} (p : Service α) (s : Db) : Prop :=
  p.Ensures C s fun _ t => Bracketed t

variable {α β : Type}

theorem keepsBrackets_of_frames {p : Service α} (hp : p.Frames bracketView) (hs : Bracketed s) :
    KeepsBrackets C p s :=
  ensures_mono (ensures_of_frames hp s) fun _ _ ht => hs.of_view ht

/-- A method whose first part leaves tournaments and registrations alone. -/
theorem keepsBrackets_frame {p : Service α} {f : α → Service β} (hp : p.Frames bracketView)
    (hs : Bracketed s)
    (hf : ∀ a t, bracketView t = bracketView s → Bracketed t → KeepsBrackets C (f a) t) :
    KeepsBrackets C (p.bind f) s := by
  refine ensures_bind (ensures_mono (ensures_of_frames hp s) fun r t ht => ?_)
  cases r with
  | error e => exact hs.of_view ht
  | ok a => exact hf a t ht (hs.of_view ht)

theorem keepsBrackets_require {ok : Bool} {e : ServiceError} {f : Unit → Service β}
    (hs : Bracketed s) (hf : ok = true → KeepsBrackets C (f ()) s) :
    KeepsBrackets C ((require ok e).bind f) s :=
  ensures_bind (ensures_require hf fun _ => hs)

/-- A method that begins by reading a tournament. -/
theorem keepsBrackets_tournament {tournamentId : String} {f : LoadedTournament → Service β}
    (hs : Bracketed s) (hf : ∀ t, s.tournaments.findOne tournamentId = some t.toTournament →
      KeepsBrackets C (f t) s) :
    KeepsBrackets C ((getTournamentById tournamentId).bind f) s := by
  refine ensures_bind (ensures_mono (getTournamentById_ensures tournamentId s) fun r t ht => ?_)
  rcases ht with ⟨rfl, hr⟩
  cases r with
  | error e => exact hs
  | ok x => exact hf x hr.1

/-- A method that ends by saving a tournament without a fresh bracket. -/
theorem keepsBrackets_save {x : Tournament} {a : α} (hs : Bracketed s)
    (hstatus : x.status ≠ .BRACKET_GENERATED) :
    KeepsBrackets C ((tournamentRepository.save x).bind fun _ => Prog.done a) s :=
  ensures_bind (ensures_perform (hs.saveTournament fun h => absurd h hstatus) fun _ => hs)

theorem createTournament_keepsBrackets (request : CreateTournamentRequest) (hs : Bracketed s) :
    KeepsBrackets C (createTournament request) s :=
  keepsBrackets_require hs fun _ => keepsBrackets_require hs fun _ =>
    keepsBrackets_frame (createEscrow_frames _) hs fun _ _ _ ht => keepsBrackets_save ht
      fun h => nomatch h

theorem openRegistration_keepsBrackets (tournamentId : String) (hs : Bracketed s) :
    KeepsBrackets C (openRegistration tournamentId) s :=
  keepsBrackets_tournament hs fun _ _ => keepsBrackets_require hs fun _ =>
    keepsBrackets_save hs fun h => nomatch h

theorem closeRegistration_keepsBrackets (tournamentId : String) (hs : Bracketed s) :
    KeepsBrackets C (closeRegistration tournamentId) s :=
  keepsBrackets_tournament hs fun _ _ => keepsBrackets_require hs fun _ =>
    keepsBrackets_save hs fun h => nomatch h

theorem startTournament_keepsBrackets (request : StartTournamentRequest) (hs : Bracketed s) :
    KeepsBrackets C (startTournament request) s := by
  refine keepsBrackets_tournament hs fun x _ => keepsBrackets_require hs fun _ => ?_
  refine ensures_bind (ensures_mono (ensures_each (I := fun t => t = s) rfl
    fun pairing _ t ht => ?_)
    fun r t ht => ?_)
  · exact ensures_mono (createPairing_ensures _ pairing) fun _ u hu => hu.1.trans ht
  · rw [ht]
    cases r with
    | error e => exact hs
    | ok _ => exact keepsBrackets_save hs fun h => nomatch h

theorem advanceRound_keepsBrackets (request : AdvanceRoundRequest) (hs : Bracketed s) :
    KeepsBrackets C (advanceRound request) s := by
  refine keepsBrackets_tournament hs fun x _ => keepsBrackets_require hs fun hplaying => ?_
  have hstatus : x.status = .IN_PROGRESS := of_decide_eq_true hplaying
  refine keepsBrackets_frame (frames_demand _ _) hs fun bracket t _ ht => ?_
  unfold settleRound
  split
  · exact keepsBrackets_frame (completeTournament_frames _) ht fun _ _ _ hu =>
      keepsBrackets_save hu fun h => nomatch h
  · refine keepsBrackets_save ht ?_
    change x.status ≠ _
    rw [hstatus]
    decide

theorem generateBracket_keepsBrackets (request : GenerateBracketRequest) (hs : Bracketed s) :
    KeepsBrackets C (generateBracket request) s := by
  refine keepsBrackets_tournament hs fun x _ => keepsBrackets_require hs fun _ => ?_
  refine ensures_bind (ensures_perform ?_ fun _ => hs)
  refine keepsBrackets_require hs fun _ => ?_
  refine keepsBrackets_frame (frames_each seedRegistration_frames) hs fun _ t hview ht => ?_
  refine ensures_bind (ensures_perform ?_ fun _ => ht)
  refine keepsBrackets_of_frames (frames_bind (getEscrow_frames _ _) fun _ =>
    frames_bind (lockEscrow_frames _) fun _ => trivial) (ht.saveTournament fun _ => ?_)
  -- Seeding orders the players, and leaves nobody out.
  have hmem : ∀ r, r ∈ seedPlayers request.shuffle (s.registrations.find fun r =>
      r.tournamentId = x.tournamentId && r.isCounted) ↔ r ∈ s.registrations.rows ∧
        r.tournamentId = x.tournamentId ∧ r.isCounted = true := by
    intro r
    rw [(seedPlayers_perm _ _).mem_iff]
    unfold Table.find
    rw [List.mem_filter, Bool.and_eq_true, decide_eq_true_eq]
  refine ⟨request.hex, _, rfl, fun id hid => ?_, fun r hr hid hcounted => ?_⟩
  · rcases List.mem_map.mp hid with ⟨r, hr, rfl⟩
    exact hs.named r ((hmem r).mp hr).1
  · -- A registration after the seeding has the key and the status of one before.
    rcases registration_of_view hview hr with ⟨r', hr', hkey, hsame⟩
    have hplayer : r'.playerId = r.playerId := congrArg Prod.snd hkey
    have htournament : r'.tournamentId = r.tournamentId := congrArg Prod.fst hkey
    exact List.mem_map.mpr ⟨r', (hmem r').mpr ⟨hr', htournament.trans hid, hsame.trans hcounted⟩,
      hplayer⟩

theorem cancelTournament_keepsBrackets (tournamentId : String) (now : Int) (hs : Bracketed s) :
    KeepsBrackets C (cancelTournament tournamentId now) s := by
  refine keepsBrackets_tournament hs fun x _ => keepsBrackets_require hs fun _ => ?_
  refine keepsBrackets_frame (getEscrow_frames _ _) hs fun escrow t _ ht => ?_
  refine keepsBrackets_frame (refundEscrow_frames _) ht fun _ u _ hu => ?_
  refine ensures_bind (ensures_perform ?_ fun _ => hu)
  refine ensures_bind (ensures_mono (ensures_each (I := Bracketed) hu fun r hr v hv => ?_)
    fun r v hv => ?_)
  · refine keepsBrackets_frame (unlockFunds_frames _) hv fun _ w _ hw => ?_
    have hnamed := hu.named r (List.mem_filter.mp hr).1
    exact ensures_perform (hw.saveRegistration hnamed fun h => nomatch h) fun _ => hw
  · -- A cancelled tournament has no bracket to keep.
    cases r with
    | error e => exact hv
    | ok _ => exact keepsBrackets_save hv fun h => nomatch h

theorem registerPlayer_keepsBrackets {request : RegisterPlayerRequest}
    (hname : request.playerId ≠ "") (hs : Bracketed s) :
    KeepsBrackets C (registerPlayer request) s := by
  refine ensures_bind (ensures_mono (checkRegistration_ensures request s) fun r t ht => ?_)
  rcases ht with ⟨rfl, hchecked⟩
  cases r with
  | error e => exact hs
  | ok x =>
  rcases hchecked x rfl with ⟨hfind, -, hopen, -⟩
  have hkey : x.tournamentId = request.tournamentId := Table.key_of_findOne hfind
  have hstatus : x.status = .REGISTRATION_OPEN := by
    unfold LoadedTournament.isRegistrationOpen at hopen
    simp only [Bool.and_eq_true, decide_eq_true_eq] at hopen
    exact hopen.1.1.1
  refine keepsBrackets_frame (lockEntry_frames _) hs fun wallet u hu hsu => ?_
  have hbody : KeepsBrackets C (enterBody (registrationEntry request x) wallet) u := by
    refine keepsBrackets_frame (getEscrow_frames _ _) hsu fun escrow v hv hsv => ?_
    refine keepsBrackets_frame (depositToEscrow_frames _) hsv fun _ w hw hsw => ?_
    refine keepsBrackets_frame (deductEntryFee_frames _ _) hsw fun _ y hy hsy => ?_
    have hview : bracketView y = bracketView t := hy.trans (hw.trans (hv.trans hu))
    have htournaments : y.tournaments = t.tournaments := congrArg Prod.fst hview
    -- The tournament is open, so it has no bracket.
    refine ensures_bind (ensures_perform ?_ fun _ => hsy)
    refine keepsBrackets_save (hsy.saveRegistration hname fun _ z hz hid => ?_) ?_
    · have hz' := Table.findOne_of_mem (htournaments ▸ hz)
      have hsame : z = x.toTournament := by
        rw [← hid, show (newRegistration x request wallet).tournamentId = request.tournamentId
          from hkey] at hz'
        exact Option.some.inj (hz'.symm.trans hfind)
      rw [hsame, hstatus]
      decide
    · change x.status ≠ _
      rw [hstatus]
      decide
  refine ensures_onError (ensures_mono hbody fun r v hv => ?_)
  cases r with
  | ok a => exact hv
  | error e =>
      have hframes : (rollbackEntry (registrationEntry request x) e).Frames bracketView :=
        rollbackEntry_frames _ e
      refine ensures_mono (ensures_of_frames hframes v) fun r w hw => ?_
      cases r <;> exact hv.of_view hw

/-- Every call keeps the invariant. Nine are looked at one by one, and the rest
    leave tournaments and registrations alone. -/
theorem call_keepsBrackets (call : Call) (hcall : call.Accepted) (hs : Bracketed s) :
    call.program.Ensures C s fun _ t => Bracketed t := by
  cases call with
  | createTournament request => exact discard_ensures (createTournament_keepsBrackets request hs)
  | openRegistration id => exact discard_ensures (openRegistration_keepsBrackets id hs)
  | registerPlayer request => exact discard_ensures (registerPlayer_keepsBrackets hcall hs)
  | closeRegistration id => exact discard_ensures (closeRegistration_keepsBrackets id hs)
  | generateBracket request => exact discard_ensures (generateBracket_keepsBrackets request hs)
  | startTournament request => exact discard_ensures (startTournament_keepsBrackets request hs)
  | advanceRound request => exact discard_ensures (advanceRound_keepsBrackets request hs)
  | cancelTournament id now => exact discard_ensures (cancelTournament_keepsBrackets id now hs)
  -- From here on the calls leave tournaments and registrations alone.
  | createWallet _ => exact discard_ensures (keepsBrackets_of_frames (createWallet_frames _) hs)
  | deposit _ => exact discard_ensures (keepsBrackets_of_frames (deposit_frames _) hs)
  | withdraw _ => exact discard_ensures (keepsBrackets_of_frames (withdraw_frames _) hs)
  | createMatch _ => exact discard_ensures (keepsBrackets_of_frames (createMatch_frames _) hs)
  | joinMatch _ => exact discard_ensures (keepsBrackets_of_frames (joinMatch_frames _) hs)
  | startMatch _ _ => exact discard_ensures (keepsBrackets_of_frames (startMatch_frames _ _) hs)
  | submitResult _ => exact discard_ensures (keepsBrackets_of_frames (submitResult_frames _) hs)
  | cancelMatch _ _ => exact discard_ensures (keepsBrackets_of_frames (cancelMatch_frames _ _) hs)
  | createEscrow _ => exact discard_ensures (keepsBrackets_of_frames (createEscrow_frames _) hs)
  | depositToEscrow _ =>
      exact discard_ensures (keepsBrackets_of_frames (depositToEscrow_frames _) hs)
  | lockEscrow _ => exact discard_ensures (keepsBrackets_of_frames (lockEscrow_frames _) hs)
  | releaseEscrow _ => exact discard_ensures (keepsBrackets_of_frames (releaseEscrow_frames _) hs)
  | refundEscrow _ => exact discard_ensures (keepsBrackets_of_frames (refundEscrow_frames _) hs)
  | closeEscrow _ => exact discard_ensures (keepsBrackets_of_frames (closeEscrow_frames _) hs)
  | lockFunds _ => exact discard_ensures (keepsBrackets_of_frames (lockFunds_frames _) hs)
  | unlockFunds _ => exact discard_ensures (keepsBrackets_of_frames (unlockFunds_frames _) hs)
  | deductEntryFee _ _ =>
      exact discard_ensures (keepsBrackets_of_frames (deductEntryFee_frames _ _) hs)

end Keeping

theorem bracketed_empty : Bracketed Db.empty :=
  ⟨fun _ h => absurd h List.not_mem_nil, fun _ h => absurd h List.not_mem_nil⟩

/-- The invariant holds after every run, whatever is refused in it. -/
theorem bracketed_after {run : Run} (haccepted : run.Accepted) :
    Bracketed (Db.empty.after run) := by
  refine after_invariant (C := True) (fun call s hcall hs => ?_) bracketed_empty haccepted
    fun h => absurd trivial h
  exact call_keepsBrackets call hcall hs

/-! ### Starting -/

/-- The first-round matches that two players are to play. -/
def pairings (t : Tournament) : List (BracketMatch × Nat) :=
  (firstRoundMatches t).zipIdx.filter fun pairing =>
    truthy pairing.1.player1Id && truthy pairing.1.player2Id

/-- A bracket for two named players or more begins with a pairing. -/
theorem pairings_ne_nil {t : Tournament} {bracketType : BracketType} {hex : BracketHex}
    {ids : List String} (hbracket : t.bracket = some (generateBracketStructure bracketType hex ids))
    (hnamed : ∀ id ∈ ids, id ≠ "") (htwo : 2 ≤ ids.length) : pairings t ≠ [] := by
  obtain ⟨a, b, rest, rfl⟩ : ∃ a b rest, ids = a :: b :: rest := by
    match ids, htwo with
    | a :: b :: rest, _ => exact ⟨a, b, rest, rfl⟩
  have hrounds : 0 < numRounds (a :: b :: rest).length := Nat.clog_pos (by omega) htwo
  obtain ⟨n, hn⟩ : ∃ n, numRounds (a :: b :: rest).length = n + 1 :=
    ⟨_, (Nat.succ_pred_eq_of_pos hrounds).symm⟩
  have hplayers : firstRoundMatches t = (newBracketRound hex 1 ((a :: b :: rest).map some ++
      List.replicate (2 ^ (n + 1) - (a :: b :: rest).length) none)).matchList := by
    unfold firstRoundMatches generateBracketStructure at *
    simp only [hbracket, hn, bracketRounds, List.head?_cons, Option.map_some, Option.getD_some]
  -- The padded list starts with the two players and has room for a match.
  have hhalf : ((a :: b :: rest).map some ++
      List.replicate (2 ^ (n + 1) - (a :: b :: rest).length) (none : Option String)).length / 2 =
        rest.length / 2 + (2 ^ (n + 1) - (a :: b :: rest).length + rest.length % 2) / 2 + 1 := by
    simp only [List.length_append, List.length_map, List.length_cons, List.length_replicate]
    omega
  have ha : truthy (some a) = true := by
    simpa [truthy] using hnamed a (by simp)
  have hb : truthy (some b) = true := by
    simpa [truthy] using hnamed b (by simp)
  intro hnil
  have hnone := List.filter_eq_nil_iff.mp hnil
  rw [hplayers, newBracketRound, hhalf] at hnone
  refine hnone (newBracketMatch ⟨1, 1, hex 1 1⟩ (some a) (some b), 0) ?_ ?_
  · rw [List.range_succ_eq_map, List.map_cons, List.zipIdx_cons]
    exact List.mem_cons_self
  · simp [newBracketMatch, orMissing, ha, hb]

/-- Players of the tournament whose registration is confirmed. -/
def Db.confirmed (db : Db) (tournamentId : String) : List TournamentRegistration :=
  db.registrations.find fun r => r.tournamentId = tournamentId && r.status = .CONFIRMED

/-- Confirmed players are different players. -/
theorem confirmed_nodup (s : Db) (tournamentId : String) :
    ((s.confirmed tournamentId).map TournamentRegistration.playerId).Nodup := by
  have hrows : (s.registrations.rows.filter fun r =>
      r.tournamentId = tournamentId && r.status = .CONFIRMED).Nodup :=
    (List.Nodup.of_map _ s.registrations.unique).filter _
  refine hrows.map_on fun a ha b hb hplayer => ?_
  simp only [Db.confirmed, Table.find, List.mem_filter, Bool.and_eq_true,
    decide_eq_true_eq] at ha hb
  refine Table.eq_of_key ha.1 hb.1 ?_
  unfold TournamentRegistration.key
  rw [ha.2.1, hb.2.1, hplayer]

/-- The bracket of a tournament with two confirmed players has a pairing. -/
theorem Bracketed.pairings_ne_nil {s : Db} (hs : Bracketed s) {t : Tournament}
    (hfind : s.tournaments.findOne t.tournamentId = some t)
    (hstatus : t.status = .BRACKET_GENERATED)
    (hconfirmed : 2 ≤ (s.confirmed t.tournamentId).length) : pairings t ≠ [] := by
  rcases hs.seeded t (Table.mem_of_findOne hfind) hstatus with ⟨hex, ids, hbracket, hnamed, hids⟩
  refine Esports.pairings_ne_nil hbracket hnamed ?_
  have hsub : (s.confirmed t.tournamentId).map TournamentRegistration.playerId ⊆ ids := by
    intro id hid
    rcases List.mem_map.mp hid with ⟨r, hr, rfl⟩
    simp only [Db.confirmed, Table.find, List.mem_filter, Bool.and_eq_true,
      decide_eq_true_eq] at hr
    exact hids r hr.1 hr.2.1 (by simp [TournamentRegistration.isCounted, hr.2.2])
  have hle := (List.subperm_of_subset (confirmed_nodup s t.tournamentId) hsub).length_le
  rw [List.length_map] at hle
  omega

/-- Starting the tournament succeeds, it is in progress then, and there is
    exactly one new match for every pairing. A start that throws leaves no
    match and no escrow behind. -/
def StartsAtomically (s : Db) (request : StartTournamentRequest) (t : Tournament) : Prop :=
  let outcome := (startTournament request).eval s
  (∃ started, outcome.1 = .ok started) ∧
    outcome.2.tournaments.findOne request.tournamentId =
      some { t with status := .IN_PROGRESS } ∧
    outcome.2.matchRows.rows.map Match.matchId =
      s.matchRows.rows.map Match.matchId ++ (pairings t).map (fun p => request.hex p.2) ∧
    ∀ e, outcome.1 = .error e →
      outcome.2.matchRows = s.matchRows ∧ outcome.2.escrows = s.escrows

/-- The loop over the first round stops at the first pairing and leaves the
    store as it was. -/
theorem createPairings_eval (hex : Nat → String) (l : List (BracketMatch × Nat)) (s : Db)
    (h : l.filter (fun pairing => truthy pairing.1.player1Id && truthy pairing.1.player2Id) ≠ []) :
    ∃ e, (each l (createPairing hex)).eval s = (.error e, s) := by
  induction l with
  | nil => exact absurd rfl h
  | cons pairing rest ih =>
      have hone := (ensures_false_iff ..).mp
        (createPairing_ensures (C := False) (s := s) hex pairing)
      rcases heval : (createPairing hex pairing).eval s with ⟨r, t⟩
      rw [heval] at hone
      rcases hone with ⟨rfl, hok⟩
      cases r with
      | error e => exact ⟨e, eval_bind_error heval⟩
      | ok u =>
          -- What went through was no pairing, so there is one further on.
          have hsingle := hok.mp rfl
          rw [List.filter_cons_of_neg (by simp [hsingle])] at h
          rcases ih h with ⟨e, he⟩
          exact ⟨e, (eval_bind_ok heval).trans he⟩

/-- In every store a run reaches, whatever was refused on the way, a tournament
    with a bracket and two confirmed players does not start: starting it throws
    and changes nothing. -/
theorem startTournament_never_starts (run : Run) (haccepted : run.Accepted)
    (request : StartTournamentRequest) (t : Tournament)
    (hfind : (Db.empty.after run).tournaments.findOne request.tournamentId = some t)
    (hstatus : t.status = .BRACKET_GENERATED)
    (hconfirmed : 2 ≤ ((Db.empty.after run).confirmed request.tournamentId).length) :
    ¬StartsAtomically (Db.empty.after run) request t ∧
      ∃ e, (startTournament request).eval (Db.empty.after run) =
        (.error e, Db.empty.after run) := by
  have hkey : t.tournamentId = request.tournamentId := Table.key_of_findOne hfind
  have hpairings := (bracketed_after haccepted).pairings_ne_nil (hkey ▸ hfind) hstatus
    (hkey ▸ hconfirmed)
  generalize Db.empty.after run = s at hfind hconfirmed ⊢
  -- The bracket has a pairing of the first round, and creating its match throws.
  have hthrows : ∃ e, (startTournament request).eval s = (.error e, s) := by
    rcases createPairings_eval request.hex _ s hpairings with ⟨e, he⟩
    refine ⟨e, ?_⟩
    unfold startTournament
    rw [bind_eq, eval_bind_ok (getTournamentById_eval hfind)]
    have hready : decide ((s.loaded t).status = .BRACKET_GENERATED) = true :=
      decide_eq_true hstatus
    rw [bind_eq, hready, eval_bind_ok (eval_require_true ..)]
    exact eval_bind_error he
  refine ⟨?_, hthrows⟩
  rcases hthrows with ⟨e, he⟩
  intro hstarts
  unfold StartsAtomically at hstarts
  rw [he] at hstarts
  rcases hstarts with ⟨⟨started, hok⟩, -⟩
  exact nomatch hok

theorem bracketedTournament_row :
    ∃ t, (Db.empty.after (bracketedTournament ["a", "b"])).tournaments.findOne "t" = some t ∧
      t.status = .BRACKET_GENERATED := by
  have hstatus : ((Db.empty.after (bracketedTournament ["a", "b"])).tournaments.findOne "t").map
      Tournament.status = some .BRACKET_GENERATED := by
    decide +kernel
  exact Option.map_eq_some_iff.mp hstatus

/-- The tournament of the two players does not start. -/
theorem not_startsAtomically_bracketedTournament :
    ∃ t, (Db.empty.after (bracketedTournament ["a", "b"])).tournaments.findOne "t" = some t ∧
      t.status = .BRACKET_GENERATED ∧
      ((Db.empty.after (bracketedTournament ["a", "b"])).confirmed "t").length = 2 ∧
      ¬StartsAtomically (Db.empty.after (bracketedTournament ["a", "b"]))
        { tournamentId := "t", hex := fun _ => "m" } t := by
  rcases bracketedTournament_row with ⟨t, hfind, hstatus⟩
  refine ⟨t, hfind, hstatus, by decide +kernel, ?_⟩
  intro hstarts
  have hthrows : ((startTournament { tournamentId := "t", hex := fun _ => "m" }).eval
      (Db.empty.after (bracketedTournament ["a", "b"]))).1.toBool = false := by
    decide +kernel
  rcases hstarts with ⟨⟨started, hok⟩, -⟩
  rw [hok] at hthrows
  exact nomatch hthrows

theorem startTournament_never_starts_bracketedTournament :
    ∃ t, ¬StartsAtomically (Db.empty.after (bracketedTournament ["a", "b"]))
      { tournamentId := "t", hex := fun _ => "m" } t := by
  rcases bracketedTournament_row with ⟨t, hfind, hstatus⟩
  exact ⟨t, (startTournament_never_starts (bracketedTournament ["a", "b"]) (by decide) _ t
    hfind hstatus
    (by decide +kernel)).1⟩

end Esports

end SvmCourse
