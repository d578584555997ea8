import SvmCourse.Esports.Entering
import SvmCourse.Esports.Solvency

/-!
# Atomicity of Entering

Whether a join or a registration that ends in an error leaves no trace. The
question is asked of one refused access at a time, with every other access
working, those of the rollback included.

The answer is a position. The accesses of a join are, in order: two checks, the
wallet, three for locking the fee, the escrow, two that lead to the deposit row,
the saved escrow, two for the deduction, and the two rows of the entry itself.
Everything up to the deposit row is undone by the one thing the handler does,
which is to unlock the fee. Nothing after it is undone: no handler takes the
row back or restores the escrow, and once the fee is deducted there is nothing
left to unlock.

## Main definitions

* `LeavesEntry`: What an entry that fails should leave alone.
* `AllOrNothing`: An error leaves it alone.
* `joinForward`, `registerForward`: The accesses of the two methods.
* `StepFault`, `faultPattern`: One refused access, or none.

## Theorems

* `entry_allOrNothing_iff`: The refusals an entry survives without a trace.
-/

namespace SvmCourse

namespace Esports

open Core Core.Prog

/-! ### What should stay -/

/-- A call leaves everything that an entry moves as it was. -/
structure LeavesEntry (s t : Db) (source : SourceId) (playerId : String) : Prop where
  balances : t.balances playerId = s.balances playerId
  escrow : t.escrowFunds source = s.escrowFunds source
  depositRows : t.depositRows source = s.depositRows source
  participants : t.participants = s.participants
  registrations : t.registrations = s.registrations
  prizePool : t.prizePool source = s.prizePool source

theorem LeavesEntry.refl (s : Db) (source : SourceId) (playerId : String) :
    LeavesEntry s s source playerId :=
  ⟨rfl, rfl, rfl, rfl, rfl, rfl⟩

theorem SameFunds.balances {s t : Db} (h : SameFunds s t) (playerId : String) :
    t.balances playerId = s.balances playerId := by
  rcases h with ⟨wallets, txs, rfl, -, rfl | ⟨wallet, wallet', hfind, hmoney, rfl⟩⟩
  · rfl
  · unfold Db.balances
    simp only [Table.findOne_save]
    by_cases hplayer : playerId = wallet'.playerId
    · rw [if_pos hplayer, hplayer, hfind, Option.map_some, Option.map_some, hmoney.2.1,
        hmoney.2.2]
    · rw [if_neg hplayer]

theorem SameFunds.leavesEntry {s t : Db} (h : SameFunds s t) (source : SourceId)
    (playerId : String) : LeavesEntry s t source playerId := by
  have hbalances := h.balances playerId
  rcases h with ⟨wallets, txs, rfl, -, -⟩
  exact ⟨hbalances, rfl, rfl, rfl, rfl, rfl⟩

/-- A deposit row that was not there before is a trace. -/
theorem not_leavesEntry_of_row {s t : Db} {source : SourceId} {playerId : String}
    {request : DepositToEscrowRequest} (hsource : request.escrowId = source)
    (h : t.escrowTxs = s.escrowTxs ++ [depositTx request]) :
    ¬LeavesEntry s t source playerId := by
  intro hleaves
  have hrows := congrArg List.length hleaves.depositRows
  have hgrow : t.depositRows source = s.depositRows source ++ [depositTx request] := by
    simp only [Db.depositRows, h, List.filter_append, depositTx, hsource, decide_true,
      Bool.and_self, List.filter_cons_of_pos, List.filter_nil]
  rw [hgrow, List.length_append, List.length_singleton] at hrows
  omega

/-! ### One refused access, or none -/

/-- Nothing is refused, or one access is. -/
def faultPattern : Option Nat → Nat → Bool
  | none => calm
  | some k => failAt k

/-- The refused access is one the method makes when nothing is refused. -/
def StepFault {α : Type} (p : Service α) (s : Db) (fault : Option Nat) : Prop :=
  ∀ k, fault = some k → k < p.accesses s

/-- When the method ends in an error, the entry has left no trace. -/
def AllOrNothing {α : Type} (p : Service α) (fault : Option Nat) (s : Db) (source : SourceId)
    (playerId : String) : Prop :=
  ∀ e t rest, p.run (faultPattern fault) s = (.error e, t, rest) →
    LeavesEntry s t source playerId

/-- The position of the save of the deposit row among the accesses of an entry
    method: two checks, the wallet, the lock, the escrow, and the escrow again
    come before it. -/
def depositRowAccess : Nat := 8

/-- The accesses of `joinMatch`, without the handler. -/
def joinForward (request : JoinMatchRequest) : Service MatchParticipant :=
  (checkJoin request).bind fun m => enterForward (joinEntry request m)

/-- The accesses of `registerPlayer`, without the handler. -/
def registerForward (request : RegisterPlayerRequest) : Service TournamentRegistration :=
  (checkRegistration request).bind fun t => enterForward (registrationEntry request t)

section Checked

variable {α β : Type}

/-- What the entries of matches and of tournaments share: a check of two
    accesses that only reads, and rows of the entry's own that touch neither
    the escrow rows nor a handler. -/
structure CheckedEntry (check : Service β) (entryOf : β → Entry α) (source : SourceId)
    (playerId : String) (book : β → PlayerWallet → Db → Db) (s : Db) : Prop where
  plain : check.Plain
  accesses : check.accesses s ≤ 2
  reads : ∀ C : Prop, check.Ensures C s fun r t => t = s ∧ ∀ b, r = .ok b →
    (entryOf b).source = source ∧ (entryOf b).playerId = playerId
  accepted : ∀ b, check.eval s = (.ok b, s) → check.accesses s = 2
  registerPlain : ∀ b w, ((entryOf b).register w).Plain
  register : ∀ b w u, ∃ a, ((entryOf b).register w).eval u = (.ok a, book b w u)
  registerRows : ∀ b w u,
    ((entryOf b).register w).Ensures True u fun _ v => v.escrowTxs = u.escrowTxs

variable {check : Service β} {entryOf : β → Entry α} {source : SourceId} {playerId : String}
  {book : β → PlayerWallet → Db → Db} {s : Db}

/-- With nothing refused, an entry that ends in an error leaves no trace. -/
theorem CheckedEntry.calm_leaves (h : CheckedEntry check entryOf source playerId book s)
    (hlocked : ∀ wallet ∈ s.wallets.rows, 0 ≤ wallet.lockedBalance) :
    (check.bind fun b => enter (entryOf b)).Ensures False s fun r t =>
      ∀ e, r = .error e → LeavesEntry s t source playerId := by
  refine ensures_bind (ensures_mono (h.reads False) fun r t ht => ?_)
  rcases ht with ⟨rfl, -⟩
  cases r with
  | error e => exact fun _ _ => LeavesEntry.refl ..
  | ok b =>
      refine ensures_mono (enter_calm hlocked (h.register b)) fun r u hu => ?_
      cases r with
      | ok a => exact fun _ he => nomatch he
      | error e => exact fun _ _ => hu.1.leavesEntry source playerId

/-- An entry with one refused access ends in an error, and leaves no trace
    exactly when the access comes no later than the save of the deposit row. -/
theorem CheckedEntry.refused (h : CheckedEntry check entryOf source playerId book s)
    (hlocked : ∀ wallet ∈ s.wallets.rows, 0 ≤ wallet.lockedBalance) {k : Nat}
    (hk : k < (check.bind fun b => enterForward (entryOf b)).accesses s) :
    ∃ e t, (check.bind fun b => enter (entryOf b)).run (failAt k) s = (.error e, t, calm) ∧
      (LeavesEntry s t source playerId ↔ k ≤ depositRowAccess) := by
  unfold depositRowAccess
  have hcount := h.accesses
  rw [run_bind]
  rcases run_failAt_split h.plain hk with ⟨hfirst, e, t, hrun⟩ | ⟨b, t, j, heval, rfl, hj, hrun⟩
  · -- The refused access is one of the two reads of the check, which write nothing.
    have hends := ensures_run (h.reads True) (failAt k) (Or.inr trivial)
    rw [hrun] at hends ⊢
    obtain rfl : t = s := hends.1
    exact ⟨e, t, rfl, ⟨fun _ => by omega, fun _ => LeavesEntry.refl ..⟩⟩
  · -- It is one of the entry, whose accesses are counted after the two.
    have hends := (ensures_false_iff ..).mp (h.reads False)
    rw [heval] at hends
    obtain rfl : t = s := hends.1
    rcases hends.2 b rfl with ⟨hsource, -⟩
    have htwo := h.accepted b heval
    rcases enter_run_failAt hlocked (h.registerPlain b) (h.registerRows b) hj with
      ⟨e, u, hentry, hearly, hlate⟩
    rw [hrun]
    refine ⟨e, u, hentry, ⟨fun hleaves => ?_, fun hle => ?_⟩⟩
    · by_contra hgt
      rcases hlate (by omega) with ⟨wallet, hrow⟩
      exact not_leavesEntry_of_row hsource hrow hleaves
    · exact (hearly (by omega)).leavesEntry source playerId

theorem CheckedEntry.allOrNothing_iff (h : CheckedEntry check entryOf source playerId book s)
    (hlocked : ∀ wallet ∈ s.wallets.rows, 0 ≤ wallet.lockedBalance) {fault : Option Nat}
    (hfault : StepFault (check.bind fun b => enterForward (entryOf b)) s fault) :
    AllOrNothing (check.bind fun b => enter (entryOf b)) fault s source playerId ↔
      ∀ k, fault = some k → k ≤ depositRowAccess := by
  cases fault with
  | none =>
      -- Without a fault an entry that fails was turned away or rolled back.
      refine ⟨fun _ k hk => (nomatch hk), fun _ e t rest hrun => ?_⟩
      have hends := ensures_run (h.calm_leaves hlocked) calm (Or.inl rfl)
      rw [show (check.bind fun b => enter (entryOf b)).run calm s = (.error e, t, rest) from hrun]
        at hends
      exact hends e rfl
  | some k =>
      rcases h.refused hlocked (hfault k rfl) with ⟨e, t, hrun, hiff⟩
      constructor
      · rintro hall _ ⟨⟩
        exact hiff.mp (hall e t calm hrun)
      · intro hle e' t' rest hrun'
        have hsame := hrun'.symm.trans hrun
        simp only [Prod.mk.injEq] at hsame
        rw [hsame.2.1]
        exact hiff.mpr (hle k rfl)

end Checked

/-! ### The two entry methods -/

/-- The two checks of an entry method: a row that must be there and pass, and
    a row that must not be there. -/
theorem checks_accesses {β γ : Type} (read : Db → Option β × Db) (missing refusal : ServiceError)
    (open_ : β → Bool) (lookup : β → Db → Option γ × Db) (taken : ServiceError) (s : Db)
    {check : Service β}
    (hcheck : check = ((query read).bind fun found => demand found missing).bind fun b =>
      (require (open_ b) refusal).bind fun _ => (query (lookup b)).bind fun existing =>
        (require existing.isNone taken).bind fun _ => Prog.done b) :
    check.accesses s ≤ 2 ∧ ∀ b t, check.eval s = (.ok b, t) → check.accesses s = 2 := by
  subst hcheck
  unfold query perform
  simp only [Prog.bind, accesses, eval]
  -- The second read is made when the row is there and passes.
  cases (read s).1 with
  | none =>
      simp only [demand, Prog.bind, accesses, eval]
      exact ⟨by omega, fun b t h => by cases (Prod.mk.inj h).1⟩
  | some b =>
      cases hopen : open_ b with
      | false =>
          simp only [demand, Prog.bind, hopen, require, Bool.false_eq_true, if_false, accesses,
            eval]
          exact ⟨by omega, fun b t h => by cases (Prod.mk.inj h).1⟩
      | true =>
          simp only [demand, Prog.bind, hopen, require, if_true, accesses, eval]
          cases hnew : (lookup b (read s).2).1.isNone with
          | false =>
              simp only [Bool.false_eq_true, if_false, Prog.bind, accesses, eval]
              exact ⟨by omega, fun b t h => by cases (Prod.mk.inj h).1⟩
          | true =>
              simp only [if_true, Prog.bind, accesses]
              exact ⟨by omega, fun _ _ _ => trivial⟩

theorem joinMatch_checked (request : JoinMatchRequest) (s : Db) :
    CheckedEntry (checkJoin request) (joinEntry request) (matchSource request.matchId)
      request.playerId (fun m wallet db =>
        { db with
          participants := db.participants.save (newParticipant m request wallet)
          matchRows := db.matchRows.save (afterJoin m) }) s where
  plain := plain_bind (plain_bind (plain_perform _ _) fun _ => plain_demand _ _) fun _ =>
    plain_bind (plain_require _ _) fun _ => plain_bind (plain_perform _ _) fun _ =>
      plain_bind (plain_require _ _) fun _ => trivial
  accesses := (checks_accesses _ _ _ _ _ _ s (by rfl)).1
  reads C := by
    refine ensures_mono (checkJoin_ensures request s) fun r t ht => ⟨ht.1, fun m hm => ?_⟩
    have hkey : m.matchId = request.matchId := Table.key_of_findOne (ht.2 m hm).1
    exact ⟨congrArg matchSource hkey, rfl⟩
  accepted m h := (checks_accesses _ _ _ _ _ _ s (by rfl)).2 m s h
  registerPlain _ _ := plain_bind (plain_perform _ _) fun _ =>
    plain_bind (plain_perform _ _) fun _ => trivial
  register _ _ _ := ⟨_, rfl⟩
  registerRows _ _ _ :=
    ensures_bind (ensures_perform (ensures_bind (ensures_perform rfl fun _ => rfl)) fun _ => rfl)

theorem registerPlayer_checked (request : RegisterPlayerRequest) (s : Db) :
    CheckedEntry (checkRegistration request) (registrationEntry request)
      (tournamentSource request.tournamentId) request.playerId (fun t wallet db =>
        { db with
          registrations := db.registrations.save (newRegistration t request wallet)
          tournaments := db.tournaments.save (afterRegistration t) }) s where
  plain := plain_bind (plain_bind (plain_perform _ _) fun _ => plain_demand _ _) fun _ =>
    plain_bind (plain_require _ _) fun _ => plain_bind (plain_perform _ _) fun _ =>
      plain_bind (plain_require _ _) fun _ => trivial
  accesses := (checks_accesses _ _ _ _ _ _ s (by rfl)).1
  reads C := by
    refine ensures_mono (checkRegistration_ensures request s) fun r u hu => ⟨hu.1, fun t ht => ?_⟩
    have hkey : t.tournamentId = request.tournamentId := Table.key_of_findOne (hu.2 t ht).1
    exact ⟨congrArg tournamentSource hkey, rfl⟩
  accepted t h := (checks_accesses _ _ _ _ _ _ s (by rfl)).2 t s h
  registerPlain _ _ := plain_bind (plain_perform _ _) fun _ =>
    plain_bind (plain_perform _ _) fun _ => trivial
  register _ _ _ := ⟨_, rfl⟩
  registerRows _ _ _ :=
    ensures_bind (ensures_perform (ensures_bind (ensures_perform rfl fun _ => rfl)) fun _ => rfl)

/-- From every reachable store, joining a match and registering for a
    tournament survive a refused access without a trace exactly when it comes
    no later than the save of the deposit row. -/
theorem entry_allOrNothing_iff (run : Run) (haccepted : run.Accepted) (fault : Option Nat) :
    (∀ request, StepFault (joinForward request) (Db.empty.after run) fault →
      (AllOrNothing (joinMatch request) fault (Db.empty.after run) (matchSource request.matchId)
          request.playerId ↔ ∀ k, fault = some k → k ≤ depositRowAccess)) ∧
    ∀ request, StepFault (registerForward request) (Db.empty.after run) fault →
      (AllOrNothing (registerPlayer request) fault (Db.empty.after run)
          (tournamentSource request.tournamentId) request.playerId ↔
        ∀ k, fault = some k → k ≤ depositRowAccess) := by
  have hlocked := (solvent_after haccepted solvent_empty).1.locked
  refine ⟨fun request hfault => ?_, fun request hfault => ?_⟩
  · exact (joinMatch_checked request _).allOrNothing_iff hlocked hfault
  · exact (registerPlayer_checked request _).allOrNothing_iff hlocked hfault

/-- One funded player and an open match. -/
def openMatch : Run :=
  Run.calmly (fundPlayers ["a"] 5000000 ++ [.createMatch { hex := "m", entryFee := 1000000 }])

/-- The save of the participant row is refused: the deduction has already gone
    through, so the unlock is refused by the wallet and the fee is gone. -/
theorem joinMatch_loses_fee :
    openMatch.Accepted ∧
      StepFault (joinForward { matchId := "m", playerId := "a" }) (Db.empty.after openMatch)
        (some 12) ∧
      ¬AllOrNothing (joinMatch { matchId := "m", playerId := "a" }) (some 12)
        (Db.empty.after openMatch) (matchSource "m") "a" := by
  refine ⟨by decide +kernel, ?_, fun hall => ?_⟩
  · rintro _ ⟨⟩
    decide +kernel
  · have hbalances := (hall _ _ _ rfl).balances
    revert hbalances
    decide +kernel

/-- The join of this match survives the refusal of its deposit row. -/
theorem entry_allOrNothing_iff_openMatch :
    AllOrNothing (joinMatch { matchId := "m", playerId := "a" }) (some 8)
      (Db.empty.after openMatch) (matchSource "m") "a" := by
  refine ((entry_allOrNothing_iff openMatch (by decide +kernel) (some 8)).1 _ ?_).mpr ?_
  · rintro _ ⟨⟩
    decide +kernel
  · rintro _ ⟨⟩
    decide

end Esports

end SvmCourse
