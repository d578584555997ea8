import SvmCourse.Core.Protocol
import SvmCourse.Esports.Books
import SvmCourse.Esports.Settling

/-!
# Ending a Match at the Same Time

Results submitted and cancellations made for one match at the same time. Both
read the status of the match and much later the status of the escrow, and only
then take the escrow out of `LOCKED`. Whoever finds the escrow locked and takes
it out of that status is entitled to its money, prizes or refunds, and nobody
else gets past the check of the escrow. So everything hangs on the two accesses
in a row at which a call finds the escrow locked and saves another status: when
two calls do so at the same time both of them pay.

A call is therefore in one of two phases. At first it may pay nothing. Once it
has taken the escrow it may pay as much as was deposited, less what it has paid
already. Whatever else the calls read and write in between does not matter.

## Main definitions

* `EndingCall`: A submitted result or a cancellation.
* `Db.paidOut`: Prizes credited and refunds written.
* `takesEscrow`: The access takes a locked escrow.
* `Straight`: What the calls rely on.
* `ending`: The protocol, with what a call may still pay as its phase.

## Theorems

* `submitResult_follows`, `cancelMatch_follows`: The calls follow the protocol.
* `straight_after`: A match that is played has straight books.
* `ending_paysOnce`: Calls that take the escrow while it is locked pay once.
-/

namespace SvmCourse

namespace Esports

open Core Core.Prog Core.Machine Core.Sched

/-! ### Calls and payments -/

/-- A call that ends the match. -/
inductive EndingCall where
  | submitResult (request : SubmitResultRequest)
  | cancelMatch (now : Int)

/-- What a call that ends the match does, access by access. -/
def EndingCall.program (matchId : String) : EndingCall → Service Unit
  | submitResult request => discard (Esports.submitResult { request with matchId := matchId })
  | cancelMatch now => discard (Esports.cancelMatch matchId now)

/-- Such calls that run at the same time. -/
abbrev EndingPool := Pool Db ServiceError EndingCall

/-- The prize rows of one match or tournament. -/
def prizeSum (txs : List WalletTransaction) (source : SourceId) : Int :=
  ((txs.filter fun tx => tx.reference = some source && tx.type = .PRIZE_WIN).map
    WalletTransaction.amount).sum

/-- What has left the escrow for players: prizes credited and refunds. -/
def Db.paidOut (db : Db) (source : SourceId) : Int :=
  prizeSum db.walletTxs source + txSum db.escrowTxs source .REFUND

/-- The escrow is locked. -/
def Db.isLocked (db : Db) (source : SourceId) : Bool :=
  (db.escrows.findOne source).any EscrowAccount.isLocked

/-- The store with the escrow locked, whatever its status. -/
def Db.relocked (db : Db) (source : SourceId) : Db :=
  { db with
    escrows := db.escrows.update (fun escrow => escrow.escrowId = source)
      (fun escrow => { escrow with status := .LOCKED }) fun _ => rfl }

/-- The access saves the escrow as being released or refunded: made on a locked
    escrow it would leave it so. -/
def takesEscrow (source : SourceId) (write : Db → Db) (s : Db) : Bool :=
  ((write (s.relocked source)).escrows.findOne source).any fun escrow =>
    escrow.status = .RELEASING || escrow.status = .REFUNDING

/-- The escrow is saved as being released or refunded only while it is stored
    as locked. -/
def TakesLocked (source : SourceId) (write : Db → Db) (s : Db) : Prop :=
  takesEscrow source write s = true → s.isLocked source = true

instance (source : SourceId) (write : Db → Db) (s : Db) : Decidable (TakesLocked source write s) :=
  inferInstanceAs (Decidable (takesEscrow source write s = true → s.isLocked source = true))

/-! ### The protocol -/

/-- What is known of the escrow row, whoever reads it: it holds no more than
    the deposits, all of them while it is locked, and takes no more. -/
structure OwnFunds (source : SourceId) (deposits : Int) (escrow : EscrowAccount) : Prop where
  escrowId : escrow.escrowId = source
  fee : FairFee escrow.platformFeePercent
  nonneg : 0 ≤ escrow.currentBalance
  le : escrow.currentBalance ≤ deposits
  inactive : escrow.status ≠ .ACTIVE
  locked : escrow.status = .LOCKED → escrow.currentBalance = deposits

/-- The fee of the match is a share and none of its prizes takes money. -/
def Match.Payable (m : Match) : Prop :=
  FairFee m.platformFeePercent ∧ ∀ entry ∈ m.prizeStructure, 0 ≤ entry.percentage

/-- What calls that end the match keep: the escrow is there and its deposits
    are what they were, and the terms of the match can be honoured. -/
structure Straight (matchId : String) (deposits : Int) (db : Db) : Prop where
  escrow : ∃ escrow, db.escrows.findOne (matchSource matchId) = some escrow ∧
    OwnFunds (matchSource matchId) deposits escrow
  deposited : db.deposited (matchSource matchId) = deposits
  amounts : ∀ tx ∈ db.depositRows (matchSource matchId), 0 ≤ tx.amount
  terms : ∀ m, db.matchRows.findOne matchId = some m → m.Payable

/-- A call has not taken the escrow, or has taken it and may still pay so
    much. -/
def ending (matchId : String) (deposits : Int) : Protocol Db (Option Int) where
  sees phase s := Straight matchId deposits s ∧
    ∀ n, phase = some n → s.isLocked (matchSource matchId) = false ∧ 0 ≤ n
  advances phase write s phase' := match phase, phase' with
    -- Another call may have taken the escrow, and this one has not.
    | none, none => Straight matchId deposits (write s) ∧
        (write s).isLocked (matchSource matchId) = s.isLocked (matchSource matchId) ∧
        (write s).paidOut (matchSource matchId) = s.paidOut (matchSource matchId)
    -- This access takes it, with all the deposits still to pay.
    | none, some n => n = deposits ∧ takesEscrow (matchSource matchId) write s = true ∧
        Straight matchId deposits (write s) ∧
        (write s).isLocked (matchSource matchId) = false ∧
        (write s).paidOut (matchSource matchId) = s.paidOut (matchSource matchId)
    -- What is paid out is what the phase falls by.
    | some n, some n' => Straight matchId deposits (write s) ∧
        (write s).isLocked (matchSource matchId) = false ∧ 0 ≤ n' ∧
        (write s).paidOut (matchSource matchId) + n' = s.paidOut (matchSource matchId) + n
    | some _, none => False

/-- How the phases of all calls go together: at most one has taken the escrow,
    none while it is locked, and what is left to pay is covered. -/
structure EndingTogether (matchId : String) (deposits : Int) (s : Db) (phases : List (Option Int)) :
    Prop where
  straight : Straight matchId deposits s
  one : (phases.filterMap id).length ≤ 1
  nonneg : ∀ n ∈ phases.filterMap id, 0 ≤ n
  untouched : s.isLocked (matchSource matchId) = true →
    phases.filterMap id = [] ∧ s.paidOut (matchSource matchId) = 0
  covered : s.paidOut (matchSource matchId) + (phases.filterMap id).sum ≤ deposits

section Law

variable {matchId : String} {deposits : Int} {s : Db} {before after : List (Option Int)}
  {phase phase' : Option Int} {write : Db → Db}

theorem ending_law (matchId : String) {deposits : Int} (hdeposits : 0 ≤ deposits) :
    ProtocolLaw (ending matchId deposits) (TakesLocked (matchSource matchId))
      (EndingTogether matchId deposits) none where
  sees s before phase after h := by
    refine ⟨h.straight, ?_⟩
    rintro n rfl
    have hmem : n ∈ (before ++ some n :: after).filterMap id := by simp
    refine ⟨?_, h.nonneg n hmem⟩
    by_contra hlocked
    rw [Bool.not_eq_false] at hlocked
    rw [(h.untouched hlocked).1] at hmem
    exact absurd hmem List.not_mem_nil
  start s phases h := by
    have hsame : (phases ++ [none]).filterMap id = phases.filterMap id := by simp
    exact ⟨h.straight, hsame ▸ h.one, hsame ▸ h.nonneg, hsame ▸ h.untouched, hsame ▸ h.covered⟩
  advance s before phase after write phase' h hadvances hC := by
    have hsplit : ∀ phase : Option Int, (before ++ phase :: after).filterMap id =
        before.filterMap id ++ (phase.toList ++ after.filterMap id) := by
      intro phase
      cases phase <;> simp
    rcases h with ⟨hstraight, hone, hnonneg, huntouched, hcovered⟩
    rw [hsplit] at hone hnonneg huntouched hcovered
    cases phase with
    | none =>
        rw [Option.toList_none, List.nil_append] at hone hnonneg huntouched hcovered
        cases phase' with
        | none =>
            rcases hadvances with ⟨hstraight', hlocked, hpaid⟩
            have hsame := hsplit none
            rw [Option.toList_none, List.nil_append] at hsame
            refine ⟨hstraight', hsame ▸ hone, hsame ▸ hnonneg, ?_, ?_⟩
            · rw [hlocked, hsame, hpaid]
              exact huntouched
            · rw [hsame, hpaid]
              exact hcovered
        | some n =>
            rcases hadvances with ⟨rfl, htakes, hstraight', hlocked, hpaid⟩
            rcases huntouched (hC htakes) with ⟨hnobody, hzero⟩
            rcases List.append_eq_nil_iff.mp hnobody with ⟨hbefore, hafter⟩
            have hself : (before ++ some n :: after).filterMap id = [n] := by
              rw [hsplit, hbefore, hafter]
              rfl
            refine ⟨hstraight', ?_, ?_, ?_, ?_⟩
            · rw [hself]
              exact le_refl 1
            · rw [hself]
              simpa using hdeposits
            · intro hstill
              exact nomatch hlocked.symm.trans hstill
            · rw [hself, hpaid, hzero, List.sum_singleton]
              omega
    | some n =>
        cases phase' with
        | none => exact hadvances.elim
        | some n' =>
            rcases hadvances with ⟨hstraight', hlocked, hleft, hpaid⟩
            -- The call that has taken the escrow is the only one.
            have hlone : before.filterMap id = [] ∧ after.filterMap id = [] := by
              simp only [Option.toList_some, List.length_append, List.length_singleton] at hone
              constructor
              · exact List.length_eq_zero_iff.mp (by omega)
              · exact List.length_eq_zero_iff.mp (by omega)
            have hself : ∀ n : Int, (before ++ some n :: after).filterMap id = [n] := by
              intro n
              rw [hsplit, hlone.1, hlone.2]
              rfl
            rw [hlone.1, hlone.2] at hcovered
            simp only [Option.toList_some, List.append_nil, List.nil_append,
              List.sum_singleton] at hcovered
            refine ⟨hstraight', ?_, ?_, ?_, ?_⟩
            · rw [hself]
              exact le_refl 1
            · rw [hself]
              simpa using hleft
            · intro hstill
              exact nomatch hlocked.symm.trans hstill
            · rw [hself, List.sum_singleton]
              omega

end Law

/-! ### Accesses that pay nothing -/

/-- Wherever the call stands, the method leaves it there, and what it returns
    has the property. -/
def Rests (matchId : String) (deposits : Int) {α : Type} (Q : α → Prop) (p : Service α) : Prop :=
  ∀ phase, p.Follows (ending matchId deposits)
    (fun phase' r => phase' = phase ∧ ∀ a, r = .ok a → Q a) phase

section Rests

variable {matchId : String} {deposits : Int} {α β : Type} {Q : α → Prop} {Q' : β → Prop}
  {phase : Option Int}

theorem rests_then {p : Service α} {f : α → Service β}
    {R : Option Int → Except ServiceError β → Prop}
    (hp : Rests matchId deposits Q p)
    (hf : ∀ a, Q a → (f a).Follows (ending matchId deposits) R phase)
    (he : ∀ e, R phase (.error e)) : (p.bind f).Follows (ending matchId deposits) R phase := by
  refine follows_bind (follows_mono (hp phase) fun phase' r hr => ?_)
  rcases hr with ⟨rfl, hQ⟩
  cases r with
  | ok a => exact hf a (hQ a rfl)
  | error e => exact he e

theorem rests_bind {p : Service α} {f : α → Service β} (hp : Rests matchId deposits Q p)
    (hf : ∀ a, Q a → Rests matchId deposits Q' (f a)) : Rests matchId deposits Q' (p.bind f) :=
  fun phase => rests_then hp (fun a ha => hf a ha phase) fun _ => ⟨rfl, fun _ h => nomatch h⟩

theorem rests_done {a : α} (h : Q a) : Rests matchId deposits Q (Prog.done a : Service α) :=
  fun _ => ⟨rfl, fun _ heq => Except.ok.inj heq ▸ h⟩

theorem rests_require {ok : Bool} {e : ServiceError} :
    Rests matchId deposits (fun _ => ok = true) (require ok e) := fun _ =>
  follows_require (fun h => ⟨rfl, fun _ _ => h⟩) fun _ => ⟨rfl, fun _ h => nomatch h⟩

theorem rests_compute {result : Except ServiceError α} :
    Rests matchId deposits (fun a => result = .ok a) (compute result) := fun _ =>
  follows_compute ⟨rfl, fun _ h => h⟩

theorem rests_demand {o : Option α} {e : ServiceError} :
    Rests matchId deposits (fun a => o = some a) (demand o e) := fun _ =>
  follows_demand (fun _ h => ⟨rfl, fun _ heq => Except.ok.inj heq ▸ h⟩) fun _ =>
    ⟨rfl, fun _ h => nomatch h⟩

theorem rests_each {f : β → Service Unit} {xs : List β}
    (hf : ∀ x, Rests matchId deposits (fun _ => True) (f x)) :
    Rests matchId deposits (fun _ => True) (each xs f) := by
  induction xs with
  | nil => exact rests_done trivial
  | cons x xs ih => exact rests_bind (hf x) fun _ _ => ih

/-- An access after which the escrow is as straight and as locked as before,
    and as much has been paid. -/
theorem rests_query {act : Db → α × Db}
    (h : ∀ s, Straight matchId deposits s → Straight matchId deposits (act s).2 ∧
      (act s).2.isLocked (matchSource matchId) = s.isLocked (matchSource matchId) ∧
      (act s).2.paidOut (matchSource matchId) = s.paidOut (matchSource matchId) ∧ Q (act s).1) :
    Rests matchId deposits Q (query act) := by
  intro phase
  refine follows_perform fun s hs => ⟨phase, ?_, rfl, fun _ heq => Except.ok.inj heq ▸
    (h s hs.1).2.2.2⟩
  rcases h s hs.1 with ⟨hstraight, hlocked, hpaid, -⟩
  cases phase with
  | none => exact ⟨hstraight, hlocked, hpaid⟩
  | some n =>
      rcases hs.2 n rfl with ⟨hopen, hnonneg⟩
      exact ⟨hstraight, hlocked.trans hopen, hnonneg, by rw [hpaid]⟩

theorem rests_read {find : Db → α} (h : ∀ s, Straight matchId deposits s → Q (find s)) :
    Rests matchId deposits Q (query fun s => (find s, s)) :=
  rests_query fun s hs => ⟨hs, rfl, rfl, h s hs⟩

/-- An access to tables that do not matter. -/
theorem rests_aside {act : Db → α × Db} (hescrows : ∀ s, (act s).2.escrows = s.escrows)
    (htxs : ∀ s, (act s).2.escrowTxs = s.escrowTxs)
    (hmatches : ∀ s, (act s).2.matchRows = s.matchRows)
    (hwalletTxs : ∀ s, prizeSum (act s).2.walletTxs (matchSource matchId) =
      prizeSum s.walletTxs (matchSource matchId)) :
    Rests matchId deposits (fun _ => True) (query act) := by
  refine rests_query fun s hs => ⟨⟨?_, ?_, ?_, ?_⟩, ?_, ?_, trivial⟩
  · rw [hescrows]
    exact hs.escrow
  · unfold Db.deposited Db.depositRows
    rw [htxs]
    exact hs.deposited
  · unfold Db.depositRows
    rw [htxs]
    exact hs.amounts
  · rw [hmatches]
    exact hs.terms
  · unfold Db.isLocked
    rw [hescrows]
  · unfold Db.paidOut
    rw [hwalletTxs, htxs]

theorem getMatchById_rests : Rests matchId deposits
    (fun m : LoadedMatch => m.matchId = matchId ∧ m.Payable) (getMatchById matchId) := by
  refine rests_bind (Q := fun found : Option LoadedMatch => ∀ m, found = some m →
    m.matchId = matchId ∧ m.Payable) (rests_read fun s hs m hm => ?_) fun found hfound => ?_
  · rcases Option.map_eq_some_iff.mp hm with ⟨row, hrow, rfl⟩
    exact ⟨Table.key_of_findOne hrow, hs.terms row hrow⟩
  · exact fun phase => follows_mono (rests_demand phase) fun _ _ h =>
      ⟨h.1, fun a ha => hfound a (h.2 a ha)⟩

/-- Reading the escrow, for whatever reason. -/
theorem demandEscrow_rests (refusal : ServiceError) :
    Rests matchId deposits (OwnFunds (matchSource matchId) deposits)
      ((escrowRepository.findOne (matchSource matchId)).bind fun escrow =>
        demand escrow refusal) := by
  refine rests_bind (Q := fun found => ∀ escrow, found = some escrow →
    OwnFunds (matchSource matchId) deposits escrow) (rests_read fun s hs escrow hfind => ?_)
    fun found hfound => ?_
  · rcases hs.escrow with ⟨stored, hstored, hown⟩
    exact Option.some.inj (hstored.symm.trans hfind) ▸ hown
  · exact fun phase => follows_mono (rests_demand phase) fun _ _ h =>
      ⟨h.1, fun a ha => hfound a (h.2 a ha)⟩

theorem saveMatch_rests {m : Match} (hkey : m.matchId = matchId) (hfair : m.Payable) :
    Rests matchId deposits (fun _ => True) (matchRepository.save m) := by
  refine rests_query fun s hs => ⟨⟨hs.escrow, hs.deposited, hs.amounts, ?_⟩, rfl, rfl, trivial⟩
  intro row hrow
  rw [Table.findOne_save, if_pos hkey.symm] at hrow
  exact Option.some.inj hrow ▸ hfair

theorem finishParticipant_rests (playerId : String) (placement : Nat) :
    Rests matchId deposits (fun _ => True) (finishParticipant matchId playerId placement) :=
  rests_aside (fun _ => rfl) (fun _ => rfl) (fun _ => rfl) fun _ => rfl

theorem getWallet_rests (playerId : String) :
    Rests matchId deposits (fun _ => True) (getWallet playerId) :=
  rests_bind (Q := fun _ => True) (rests_read fun _ _ => trivial) fun _ _ phase =>
    follows_mono (rests_demand phase) fun _ _ h => ⟨h.1, fun _ _ => trivial⟩

end Rests

/-! ### Taking the escrow -/

section Taking

variable {matchId : String} {deposits : Int} {s : Db} {escrow settled : EscrowAccount}
  {txs : List EscrowTransaction} {tx : EscrowTransaction}

theorem straight_saveEscrow (hs : Straight matchId deposits s)
    (hown : OwnFunds (matchSource matchId) deposits escrow) :
    Straight matchId deposits (s.withEscrow escrow) ∧
      (s.withEscrow escrow).isLocked (matchSource matchId) = escrow.isLocked ∧
      (s.withEscrow escrow).paidOut (matchSource matchId) = s.paidOut (matchSource matchId) := by
  have hfind : (s.escrows.save escrow).findOne (matchSource matchId) = some escrow := by
    rw [← hown.escrowId]
    exact Table.findOne_save_self s.escrows escrow
  refine ⟨⟨⟨escrow, hfind, hown⟩, hs.deposited, hs.amounts, hs.terms⟩, ?_, rfl⟩
  unfold Db.isLocked Db.withEscrow
  simp only
  rw [hfind, Option.any_some]

/-- A row of a settlement is no deposit. -/
theorem straight_saveTx (hs : Straight matchId deposits s) (htype : tx.type ≠ .DEPOSIT) :
    Straight matchId deposits (s.withEscrowTxs [tx]) ∧
      (s.withEscrowTxs [tx]).paidOut (matchSource matchId) =
        s.paidOut (matchSource matchId) + txSum [tx] (matchSource matchId) .REFUND := by
  -- The new row is no deposit, so only what is paid out may change.
  have hrows : (s.withEscrowTxs [tx]).depositRows (matchSource matchId) =
      s.depositRows (matchSource matchId) := by
    unfold Db.depositRows Db.withEscrowTxs
    rw [List.filter_append]
    simp [htype]
  refine ⟨⟨hs.escrow, ?_, hrows ▸ hs.amounts, hs.terms⟩, ?_⟩
  · unfold Db.deposited
    rw [hrows]
    exact hs.deposited
  · unfold Db.paidOut Db.withEscrowTxs
    rw [txSum_append]
    exact (Int.add_assoc ..).symm

theorem txSum_nonneg {source : SourceId} {type : EscrowTransactionType}
    (h : ∀ tx ∈ txs, tx.type = type → 0 ≤ tx.amount) : 0 ≤ txSum txs source type := by
  refine List.sum_nonneg fun a ha => ?_
  rcases List.mem_map.mp ha with ⟨tx, htx, rfl⟩
  rw [List.mem_filter, Bool.and_eq_true, decide_eq_true_eq, decide_eq_true_eq] at htx
  exact h tx htx.1 htx.2.2

/-- Writing the rows of a settlement uses up what the refunds among them
    cost. -/
theorem saveTxs_follows {start left : Int}
    (hstart : start = left + txSum txs (matchSource matchId) .REFUND) (hleft : 0 ≤ left)
    (htypes : ∀ tx ∈ txs, tx.type ≠ .DEPOSIT)
    (hamounts : ∀ tx ∈ txs, tx.type = .REFUND → 0 ≤ tx.amount) :
    (each txs escrowTxRepository.save).Follows (ending matchId deposits)
      (fun phase r => phase = some left ∧ r = .ok ()) (some start) := by
  rw [hstart]
  -- The phase says what the rows still to be written cost.
  refine follows_each (J := fun rest phase =>
    phase = some (left + txSum rest (matchSource matchId) .REFUND) ∧
      (∀ tx ∈ rest, tx.type ≠ .DEPOSIT) ∧ ∀ tx ∈ rest, tx.type = .REFUND → 0 ≤ tx.amount)
    ?_ ?_ ⟨rfl, htypes, hamounts⟩
  · rintro tx rest _ ⟨rfl, htypes, hamounts⟩
    rcases List.forall_mem_cons.mp htypes with ⟨htype, htypes⟩
    rcases List.forall_mem_cons.mp hamounts with ⟨-, hamounts⟩
    refine follows_perform fun s hs => ⟨some (left + txSum rest (matchSource matchId) .REFUND),
      ?_, rfl, htypes, hamounts⟩
    rcases straight_saveTx hs.1 htype with ⟨hstraight, hpaid⟩
    have hcons : txSum (tx :: rest) (matchSource matchId) .REFUND =
        txSum [tx] (matchSource matchId) .REFUND + txSum rest (matchSource matchId) .REFUND := by
      rw [← txSum_append, List.singleton_append]
    refine ⟨hstraight, (hs.2 _ rfl).1, Int.add_nonneg hleft (txSum_nonneg hamounts), ?_⟩
    rw [hcons]
    change (s.withEscrowTxs [tx]).paidOut (matchSource matchId) + _ = _
    omega
  · rintro _ ⟨rfl, -, -⟩
    exact ⟨congrArg some (Int.add_zero left), rfl⟩

/-- A settlement takes the escrow with its first access. -/
theorem settleEscrow_follows {transitional : EscrowStatus} (back : EscrowStatus)
    (hown : OwnFunds (matchSource matchId) deposits escrow)
    (hstatus : transitional = .RELEASING ∨ transitional = .REFUNDING)
    (hsettled : OwnFunds (matchSource matchId) deposits settled)
    (hunlocked : settled.isLocked = false) (htypes : ∀ tx ∈ txs, tx.type ≠ .DEPOSIT)
    (hamounts : ∀ tx ∈ txs, tx.type = .REFUND → 0 ≤ tx.amount)
    (hcost : txSum txs (matchSource matchId) .REFUND ≤ deposits) :
    (settleEscrow escrow transitional back txs settled).Follows (ending matchId deposits)
      (fun phase r => phase = some (deposits - txSum txs (matchSource matchId) .REFUND) ∧
        r = .ok ()) none := by
  -- A taken escrow is neither active nor locked.
  have htaken : OwnFunds (matchSource matchId) deposits { escrow with status := transitional } := by
    refine ⟨hown.escrowId, hown.fee, hown.nonneg, hown.le, ?_, ?_⟩
    · rcases hstatus with rfl | rfl <;> exact nofun
    · rcases hstatus with rfl | rfl <;> exact nofun
  -- The first access takes it, with all the deposits still to be spent.
  refine follows_bind (follows_perform fun s hs => ⟨some deposits, ?_, ?_⟩)
  · rcases straight_saveEscrow hs.1 htaken with ⟨hstraight, hlocked, hpaid⟩
    refine ⟨rfl, ?_, hstraight, hlocked.trans ?_, hpaid⟩
    · unfold takesEscrow
      have hfind : ((s.relocked (matchSource matchId)).escrows.save
          { escrow with status := transitional }).findOne (matchSource matchId) =
            some { escrow with status := transitional } := by
        rw [← hown.escrowId]
        exact Table.findOne_save_self (s.relocked escrow.escrowId).escrows
          { escrow with status := transitional }
      simp only
      rw [hfind, Option.any_some]
      rcases hstatus with rfl | rfl <;> rfl
    · rcases hstatus with rfl | rfl <;> rfl
  · -- The rows spend what they refund, and the last save settles the escrow.
    have hsplit : deposits = deposits - txSum txs (matchSource matchId) .REFUND +
        txSum txs (matchSource matchId) .REFUND := by omega
    refine follows_bind (follows_onError (follows_mono (saveTxs_follows hsplit
      (Int.sub_nonneg_of_le hcost) htypes hamounts) fun phase r hr => ?_))
    rcases hr with ⟨rfl, rfl⟩
    refine follows_onError (follows_perform fun s hs => ⟨_, ?_, rfl, rfl⟩)
    rcases straight_saveEscrow hs.1 hsettled with ⟨hstraight, hlocked, hpaid⟩
    exact ⟨hstraight, hlocked.trans hunlocked, (hs.2 _ rfl).2,
      congrArg (· + (deposits - txSum txs (matchSource matchId) .REFUND)) hpaid⟩

/-- A release whose payments are not negative takes the escrow, and leaves as
    much to pay as was deposited. -/
theorem releaseEscrow_follows {request : ReleaseEscrowRequest}
    (hid : request.escrowId = matchSource matchId) (htotal : 0 ≤ request.total) :
    (releaseEscrow request).Follows (ending matchId deposits)
      (fun phase r => ∀ txs, r = .ok txs → phase = some deposits ∧ request.total ≤ deposits)
      none := by
  unfold releaseEscrow getEscrowById
  rw [hid]
  refine rests_then (demandEscrow_rests _) (fun escrow hown => ?_) fun _ _ h => nomatch h
  refine rests_then rests_require (fun _ hcan => ?_) fun _ _ h => nomatch h
  unfold EscrowAccount.canRelease at hcan
  rw [Bool.and_eq_true, decide_eq_true_eq] at hcan
  have hbalance := hown.locked hcan.1
  have hfee := platformFeeOf_nonneg hown.nonneg hown.fee.1 hown.fee.2
  refine rests_then rests_require (fun _ hle => ?_) fun _ _ h => nomatch h
  have hle := of_decide_eq_true hle
  have hsettled : OwnFunds (matchSource matchId) deposits
      (escrow.afterRelease request.total
        (platformFeeOf escrow.currentBalance escrow.platformFeePercent)) := by
    refine ⟨hown.escrowId, hown.fee, ?_, ?_, nofun, nofun⟩
    · unfold EscrowAccount.afterRelease
      simp only
      omega
    · unfold EscrowAccount.afterRelease
      simp only
      omega
  have hnone := (txSum_releaseTxs request hfee).2.2.1
  rw [hid] at hnone
  refine follows_bind (follows_mono (settleEscrow_follows .LOCKED hown (Or.inl rfl) hsettled rfl
    (releaseTxs_type request _) (fun tx htx htype => ?_) ?_) fun phase r hr => ?_)
  · -- A release pays no refunds.
    rcases releaseTxs_kind request _ tx htx with hkind | hkind
    · exact nomatch hkind.symm.trans htype
    · exact nomatch hkind.symm.trans htype
  · rw [hnone, ← hbalance]
    exact hown.nonneg
  · rcases hr with ⟨rfl, rfl⟩
    rw [hnone, Int.sub_zero]
    exact fun _ _ => ⟨rfl, by omega⟩

/-- A refund takes the escrow and pays back everything. -/
theorem refundEscrow_follows {request : RefundEscrowRequest}
    (hid : request.escrowId = matchSource matchId) (hall : request.walletIds = none) :
    (refundEscrow request).Follows (ending matchId deposits)
      (fun phase r => ∀ txs, r = .ok txs → phase = some 0) none := by
  unfold refundEscrow getEscrowById
  rw [hid]
  refine rests_then (demandEscrow_rests _) (fun escrow hown => ?_) fun _ _ h => nomatch h
  refine rests_then rests_require (fun _ hcan => ?_) fun _ _ h => nomatch h
  -- A refundable escrow is locked, as it is not active, so it holds all the deposits.
  have hbalance : escrow.currentBalance = deposits := by
    unfold EscrowAccount.canRefund at hcan
    rw [Bool.and_eq_true, List.contains_iff_mem] at hcan
    rcases List.mem_cons.mp hcan.1 with hactive | hlocked
    · exact absurd hactive hown.inactive
    · exact hown.locked (List.mem_singleton.mp hlocked)
  have hcovers : request.covers = fun tx => tx.escrowId = matchSource matchId &&
      tx.type = .DEPOSIT := by
    funext tx
    unfold RefundEscrowRequest.covers
    rw [hid, hall, Bool.and_true]
  have hdeposits : Rests matchId deposits (fun found : List EscrowTransaction =>
      (found.map EscrowTransaction.amount).sum = deposits ∧ ∀ tx ∈ found, 0 ≤ tx.amount)
      (escrowTxRepository.find request.covers) := by
    rw [hcovers]
    exact rests_read fun s hs => ⟨hs.deposited, hs.amounts⟩
  refine rests_then hdeposits (fun found hfound => ?_) fun _ _ h => nomatch h
  rcases hfound with ⟨hsum, hamounts⟩
  refine rests_then rests_require (fun _ _ => ?_) fun _ _ h => nomatch h
  -- The rows pay all of them back.
  have hrefunds : txSum (refundTxs request found) (matchSource matchId) .REFUND = deposits := by
    have hrows := txSum_refundTxs request found .REFUND
    rw [hid, if_pos rfl] at hrows
    exact hrows.trans hsum
  -- And the balance that is left is zero.
  have hsettled : OwnFunds (matchSource matchId) deposits (escrow.afterRefund deposits) := by
    unfold EscrowAccount.afterRefund
    rw [hbalance, Int.sub_self, if_pos rfl]
    exact ⟨hown.escrowId, hown.fee, le_refl 0, hbalance ▸ hown.nonneg, nofun, nofun⟩
  have hunlocked : (escrow.afterRefund deposits).isLocked = false := by
    unfold EscrowAccount.afterRefund
    rw [hbalance, Int.sub_self, if_pos rfl]
    rfl
  rw [hsum]
  refine follows_bind (follows_mono (settleEscrow_follows .ACTIVE hown (Or.inr rfl) hsettled
    hunlocked (refundTxs_type request found) (fun tx htx _ => ?_) (le_of_eq hrefunds))
    fun phase r hr => ?_)
  · rcases List.mem_map.mp htx with ⟨deposit, hmem, rfl⟩
    exact hamounts deposit hmem
  · rcases hr with ⟨rfl, rfl⟩
    rw [hrefunds, Int.sub_self]
    exact fun _ _ => rfl

end Taking

/-! ### Paying -/

section Paying

variable {matchId : String} {deposits left : Int} {s : Db} {tx : WalletTransaction}

/-- A prize row uses up its amount, and other rows of wallets cost nothing. -/
theorem prizeSum_insert (txs : List WalletTransaction) (tx : WalletTransaction)
    (source : SourceId) : prizeSum (txs ++ [tx]) source =
      prizeSum txs source +
        if tx.reference = some source ∧ tx.type = .PRIZE_WIN then tx.amount else 0 := by
  unfold prizeSum
  rw [List.filter_append, List.map_append, List.sum_append]
  by_cases hprize : tx.reference = some source ∧ tx.type = .PRIZE_WIN
  · simp [hprize]
  · simp [hprize]

/-- Refunds of wallets are no prizes. -/
theorem unlockFunds_rests (request : LockFundsRequest) :
    Rests matchId deposits (fun _ => True) (unlockFunds request) := by
  refine rests_bind (getWallet_rests request.playerId) fun wallet _ => ?_
  refine rests_bind rests_require fun _ _ => ?_
  refine rests_bind (rests_aside (fun _ => rfl) (fun _ => rfl) (fun _ => rfl) fun s => ?_)
    fun _ _ => ?_
  · rw [prizeSum_insert, if_neg fun h => nomatch h.2]
    exact Int.add_zero _
  · exact rests_bind (rests_aside (fun _ => rfl) (fun _ => rfl) (fun _ => rfl) fun _ => rfl)
      fun _ _ => rests_done trivial

/-- A credit uses up its amount, or less when it fails early. -/
theorem creditOne_follows {dist : PrizeCalculation} (hnonneg : 0 ≤ dist.amount)
    (hle : dist.amount ≤ left) :
    (creditOne (matchSource matchId) (markParticipant matchId) dist).Follows
      (ending matchId deposits)
      (fun phase _ => ∃ left', phase = some left' ∧ left - dist.amount ≤ left') (some left) := by
  have hkept : ∃ left', some left = some left' ∧ left - dist.amount ≤ left' :=
    ⟨left, rfl, by omega⟩
  have hspent : ∃ left', some (left - dist.amount) = some left' ∧ left - dist.amount ≤ left' :=
    ⟨left - dist.amount, rfl, le_refl _⟩
  refine follows_bind ?_
  refine rests_then (getWallet_rests dist.playerId) (fun wallet _ => ?_) fun _ => hkept
  refine rests_then rests_require (fun _ _ => ?_) fun _ => hkept
  -- The row is where the prize is paid.
  refine follows_bind (follows_perform fun s hs => ⟨some (left - dist.amount), ?_, ?_⟩)
  · refine ⟨⟨hs.1.escrow, hs.1.deposited, hs.1.amounts, hs.1.terms⟩, (hs.2 left rfl).1,
      by omega, ?_⟩
    unfold Db.paidOut
    rw [prizeSum_insert, if_pos ⟨rfl, rfl⟩]
    simp only
    omega
  · refine rests_then (rests_aside (fun _ => rfl) (fun _ => rfl) (fun _ => rfl) fun _ => rfl)
      (fun _ _ => ?_) fun _ => hspent
    change (markParticipant matchId dist).Follows _ _ _
    refine follows_mono (rests_aside (fun _ => rfl) (fun _ => rfl) (fun _ => rfl)
      (fun _ => rfl) _) fun phase r hr => ?_
    rw [hr.1]
    exact hspent

/-- Crediting pays what is left at most. -/
theorem creditAll_follows {dists : List PrizeCalculation} (hnonneg : ∀ d ∈ dists, 0 ≤ d.amount)
    {record : PrizeDistribution} {total : Int}
    (hle : (dists.map PrizeCalculation.amount).sum ≤ left) :
    (creditAll (matchSource matchId) (markParticipant matchId) dists record total).Follows
      (ending matchId deposits) (fun phase _ => ∃ left', phase = some left') (some left) := by
  induction dists generalizing record total left with
  | nil => exact ⟨left, rfl⟩
  | cons dist rest ih =>
      rw [List.map_cons, List.sum_cons] at hle
      rcases List.forall_mem_cons.mp hnonneg with ⟨hdist, hrest⟩
      have hsum : 0 ≤ (rest.map PrizeCalculation.amount).sum := by
        refine List.sum_nonneg fun a ha => ?_
        rcases List.mem_map.mp ha with ⟨d, hd, rfl⟩
        exact hrest d hd
      refine follows_bind (follows_rescue (follows_bind (follows_mono
        (creditOne_follows hdist (by omega)) fun phase r hr => ?_)))
      rcases hr with ⟨left', rfl, hleft⟩
      -- Whether the credit went through or not, the rest is what was left of the
      -- prizes.
      cases r with
      | ok _ => exact ih hrest (by omega)
      | error e => exact ih hrest (by omega)

/-- Records of distributions do not matter. -/
theorem insertRecord_rests (record : PrizeDistribution) :
    Rests matchId deposits (fun _ => True) (prizeRepository.insert record) :=
  rests_aside (fun _ => rfl) (fun _ => rfl) (fun _ => rfl) fun _ => rfl

theorem saveRecord_rests (id : Nat) (record : PrizeDistribution) :
    Rests matchId deposits (fun _ => True) (prizeRepository.save id record) :=
  rests_aside (fun _ => rfl) (fun _ => rfl) (fun _ => rfl) fun _ => rfl

/-- A payout that succeeds has taken the escrow. -/
theorem distributeMatchPrizes_follows {m : Match} (hkey : m.matchId = matchId)
    (hfair : m.Payable) (participants : List MatchParticipant) :
    (distributeMatchPrizes m participants).Follows (ending matchId deposits)
      (fun phase r => ∀ a, r = .ok a → ∃ left, phase = some left) none := by
  obtain rfl := hkey
  refine rests_then (demandEscrow_rests _) (fun escrow hown => ?_) fun _ _ h => nomatch h
  unfold getEscrowBalance getEscrowById
  rw [hown.escrowId]
  refine rests_then (demandEscrow_rests _) (fun balance hbalance => ?_) fun _ _ h => nomatch h
  refine rests_then rests_compute (fun dists hdists => ?_) fun _ _ h => nomatch h
  refine rests_then (insertRecord_rests _) (fun id _ => ?_) fun _ _ h => nomatch h
  -- Up to the release only reads, and the record of the payout.
  have hnonneg : ∀ d ∈ dists, 0 ≤ d.amount :=
    matchPayments_nonneg hfair.2 (Int.sub_nonneg_of_le
      (platformFeeOf_le hbalance.nonneg hfair.1.1 hfair.1.2)) hdists
  have htotal : 0 ≤ (paymentsOf (matchSource m.matchId) dists).total := by
    rw [paymentsOf_total]
    refine List.sum_nonneg fun a ha => ?_
    rcases List.mem_map.mp ha with ⟨d, hd, rfl⟩
    exact hnonneg d hd
  refine follows_bind (follows_onError (follows_mono (releaseEscrow_follows rfl htotal)
    fun phase r hr => ?_))
  cases r with
  | error e =>
      -- The release failed, which is noted in the record, and the call fails.
      refine follows_mono (saveRecord_rests _ _ phase) fun phase r _ => ?_
      cases r with
      | ok _ => exact fun _ h => nomatch h
      | error _ => exact fun _ h => nomatch h
  | ok txs =>
      -- The escrow is taken. From here on no access touches it.
      rcases hr txs rfl with ⟨rfl, hle⟩
      rw [paymentsOf_total] at hle
      refine follows_bind (follows_mono (creditAll_follows hnonneg hle) fun phase r hr => ?_)
      cases r with
      | error e => exact fun _ h => nomatch h
      | ok outcome =>
          refine follows_bind (follows_onError (follows_mono (saveRecord_rests _ _ phase)
            fun phase r hsame => ?_))
          rw [hsame.1]
          cases r with
          | ok _ => exact fun _ _ => hr
          | error e =>
              refine follows_mono (saveRecord_rests _ _ _) fun phase r _ => ?_
              cases r with
              | ok _ => exact fun _ h => nomatch h
              | error _ => exact fun _ h => nomatch h

end Paying

/-! ### The calls -/

section Calls

variable {matchId : String} {deposits : Int} {s : Db}

/-- A result that is submitted successfully has taken the escrow. -/
theorem submitResult_follows (request : SubmitResultRequest)
    (hid : request.matchId = matchId) :
    (submitResult request).Follows (ending matchId deposits)
      (fun phase r => ∀ a, r = .ok a → ∃ left, phase = some left) none := by
  unfold submitResult
  rw [hid]
  refine rests_then getMatchById_rests (fun m hm => ?_) fun _ _ h => nomatch h
  -- The match and its participants are saved, which is no business of the escrow.
  obtain ⟨hkey, hfair⟩ := hm
  refine rests_then rests_require (fun _ _ => ?_) fun _ _ h => nomatch h
  refine rests_then (Q := fun _ => True) (rests_read fun _ _ => trivial)
    (fun participants _ => ?_) fun _ _ h => nomatch h
  refine rests_then rests_compute (fun _ _ => ?_) fun _ _ h => nomatch h
  refine rests_then (saveMatch_rests hkey hfair) (fun _ _ => ?_) fun _ _ h => nomatch h
  rw [hkey]
  refine rests_then (rests_each fun _ => finishParticipant_rests _ _) (fun _ _ => ?_)
    fun _ _ h => nomatch h
  refine rests_then (rests_each fun _ => finishParticipant_rests _ _) (fun _ _ => ?_)
    fun _ _ h => nomatch h
  -- The payout is what takes it.
  refine follows_bind (follows_mono
    (distributeMatchPrizes_follows (m := afterResult m.toMatch request) hkey hfair participants)
    fun phase r hr => ?_)
  cases r with
  | error e => exact fun _ h => nomatch h
  | ok _ =>
      refine rests_then (saveMatch_rests hkey hfair) (fun _ _ => ?_) fun _ _ h => nomatch h
      exact fun _ _ => hr _ rfl

/-- A cancellation that succeeds has taken the escrow. -/
theorem cancelMatch_follows (now : Int) :
    (cancelMatch matchId now).Follows (ending matchId deposits)
      (fun phase r => ∀ a, r = .ok a → ∃ left, phase = some left) none := by
  refine rests_then getMatchById_rests (fun m hm => ?_) fun _ _ h => nomatch h
  obtain ⟨hkey, hfair⟩ := hm
  refine rests_then rests_require (fun _ _ => ?_) fun _ _ h => nomatch h
  refine rests_then (demandEscrow_rests _) (fun escrow hown => ?_) fun _ _ h => nomatch h
  -- The refund takes the escrow, and nothing after it touches money.
  refine follows_bind (follows_mono (refundEscrow_follows hown.escrowId rfl) fun phase r hr => ?_)
  cases r with
  | error e => exact fun _ h => nomatch h
  | ok txs =>
      rw [hr txs rfl]
      refine rests_then (Q := fun _ => True) (rests_read fun _ _ => trivial)
        (fun participants _ => ?_) fun _ _ h => nomatch h
      refine rests_then (rests_each fun participant => ?_) (fun _ _ => ?_) fun _ _ h => nomatch h
      · exact rests_bind (unlockFunds_rests _) fun _ _ =>
          rests_aside (fun _ => rfl) (fun _ => rfl) (fun _ => rfl) fun _ => rfl
      · refine rests_then (saveMatch_rests hkey hfair) (fun _ _ => ?_) fun _ _ h => nomatch h
        exact fun _ _ => ⟨0, rfl⟩

theorem ending_follows (call : EndingCall) :
    (call.program matchId).Follows (ending matchId deposits)
      (fun phase r => r = .ok () → phase.isSome = true) none := by
  cases call with
  | submitResult request =>
      refine follows_bind (follows_mono (submitResult_follows _ rfl) fun phase r hr => ?_)
      cases r with
      | ok a => exact fun _ => Option.isSome_iff_exists.mpr (hr a rfl)
      | error e => exact fun h => nomatch h
  | cancelMatch now =>
      refine follows_bind (follows_mono (cancelMatch_follows now) fun phase r hr => ?_)
      cases r with
      | ok a => exact fun _ => Option.isSome_iff_exists.mpr (hr a rfl)
      | error e => exact fun h => nomatch h

end Calls

/-! ### Many calls -/

/-- The threads that have succeeded. -/
def EndingPool.succeeded (pool : EndingPool) : Nat :=
  pool.threads.countP fun thread => thread.rest.outcome = some (.ok ())

/-- No more is paid than was deposited, and one call at most has succeeded. -/
structure PaidOnce (pool : EndingPool) (source : SourceId) : Prop where
  covered : pool.store.paidOut source ≤ pool.store.deposited source
  once : pool.succeeded ≤ 1

theorem paidOnce_of_phased {matchId : String} {deposits : Int} {pool : EndingPool}
    (h : Phased (ending matchId deposits) (fun phase r => r = .ok () → phase.isSome = true)
      (EndingTogether matchId deposits) pool) : PaidOnce pool (matchSource matchId) := by
  rcases h with ⟨tagged, hthreads, hfollows, htogether⟩
  constructor
  · have hcovered := htogether.covered
    have hleft := List.sum_nonneg htogether.nonneg
    rw [htogether.straight.deposited]
    omega
  · -- Whoever has succeeded is in the phase of paying.
    have hphases : pool.succeeded ≤ (tagged.map Prod.snd).countP Option.isSome := by
      unfold EndingPool.succeeded
      rw [← hthreads, List.countP_map, List.countP_map]
      refine List.countP_mono_left fun entry hmem hok => ?_
      exact follows_outcome (hfollows entry hmem) (of_decide_eq_true hok) rfl
    have hone := htogether.one
    rw [List.length_filterMap_eq_countP] at hone
    exact hphases.trans hone

/-- A match that is being played, with its escrow locked, has straight books. -/
theorem straight_after {run : Run} (hrun : CalmRun run) (hvalid : run.Validated) {m : Match}
    (hfind : (Db.empty.after run).matchRows.findOne m.matchId = some m)
    (hplaying : m.status = .IN_PROGRESS) {escrow : EscrowAccount}
    (hescrow : (Db.empty.after run).escrows.findOne m.source = some escrow)
    (hlocked : escrow.status = .LOCKED) :
    Straight m.matchId ((Db.empty.after run).deposited m.source) (Db.empty.after run) := by
  rcases funded_after hrun hvalid hfind hplaying hescrow hlocked with ⟨hfunded, hoffer, hbalance⟩
  have hfunds := matchFunds_after hrun hvalid hfind hplaying hescrow hlocked
  -- While a match is being played all that was deposited is still held.
  have hdeposited : (Db.empty.after run).deposited m.source = escrow.currentBalance :=
    hfunded.deposited.trans hbalance.symm
  have hpercent : FairFee m.platformFeePercent := ⟨hfunds.fee.1, hfunds.fee.2.trans (by norm_num)⟩
  refine ⟨⟨escrow, hescrow, ⟨Table.key_of_findOne hescrow, ?_, ?_, ?_, ?_, ?_⟩⟩, rfl, ?_, ?_⟩
  · rw [hfunds.percent]
    exact hpercent
  · have hlarge := hfunds.large
    omega
  · exact le_of_eq hdeposited.symm
  · rw [hlocked]
    exact nofun
  · exact fun _ => hdeposited.symm
  · intro tx htx
    rcases List.mem_filter.mp htx with ⟨hmem, hrow⟩
    rw [Bool.and_eq_true, decide_eq_true_eq, decide_eq_true_eq] at hrow
    exact ((ledger_after hrun).deposits tx hmem hrow.2).1.le
  · intro row hrow
    obtain rfl := Option.some.inj (hrow.symm.trans hfind)
    exact ⟨hpercent, (hoffer rfl).2.2⟩

/-- Results and cancellations of one match, at any time, pay once and one of
    them succeeds at most, as long as the escrow is only taken while it is
    locked. -/
theorem ending_paysOnce {s : Db} {matchId : String}
    (hs : Straight matchId (s.deposited (matchSource matchId)) s)
    (hunpaid : s.paidOut (matchSource matchId) = 0) {moves : List (Move EndingCall)}
    (htaken : Along (move (EndingCall.program matchId))
      (fun m pool _ _ => meets (TakesLocked (matchSource matchId)) m pool) moves ⟨s, []⟩) :
    PaidOnce (after (move (EndingCall.program matchId)) moves ⟨s, []⟩) (matchSource matchId) := by
  have hnonneg : 0 ≤ s.deposited (matchSource matchId) := by
    refine List.sum_nonneg fun a ha => ?_
    rcases List.mem_map.mp ha with ⟨tx, htx, rfl⟩
    exact hs.amounts tx htx
  have hnobody : EndingTogether matchId (s.deposited (matchSource matchId)) s [] := by
    refine ⟨hs, Nat.zero_le 1, nofun, fun _ => ⟨rfl, hunpaid⟩, ?_⟩
    rw [hunpaid]
    exact hnonneg
  exact paidOnce_of_phased (phased_after (ending_law matchId hnonneg) ending_follows
    (phased_nil hnobody) htaken)

/-- A match of three players that is being played, with sixty percent for the
    winner. -/
def playedMatch : Run :=
  customMatch [{ place := 1, percentage := 60 }, { place := 2, percentage := 40 }]

/-- The pool of the witness after the moves. -/
def endingPool (moves : List (Move EndingCall)) : EndingPool :=
  after (move (EndingCall.program "m")) moves ⟨Db.empty.after playedMatch, []⟩

theorem playedMatch_straight : Straight "m"
    ((Db.empty.after playedMatch).deposited (matchSource "m")) (Db.empty.after playedMatch) := by
  have hplaying : ((Db.empty.after playedMatch).matchRows.findOne "m").any
      (fun m => m.status = .IN_PROGRESS) = true := by decide +kernel
  have hlocked : ((Db.empty.after playedMatch).escrows.findOne (matchSource "m")).any
      (fun escrow => escrow.status = .LOCKED) = true := by decide +kernel
  rcases (Option.any_eq_true ..).mp hplaying with ⟨m, hfind, hstatus⟩
  rcases (Option.any_eq_true ..).mp hlocked with ⟨escrow, hescrow, hheld⟩
  have hid : m.matchId = "m" := Table.key_of_findOne hfind
  have hsource : m.source = matchSource "m" := congrArg matchSource hid
  have hstraight := straight_after (m := m) (calmRun_calmly (by decide) (by decide))
    (customMatch_validated (by decide +kernel)) (hid ▸ hfind) (of_decide_eq_true hstatus)
    (hsource ▸ hescrow) (of_decide_eq_true hheld)
  rw [hid, hsource] at hstraight
  exact hstraight

/-- Two results, each past the check of the match before the other is saved. -/
def twoResults : List (Move EndingCall) :=
  [.start (.submitResult { matchId := "m", winnerIds := ["a"], now := 1 }),
    .start (.submitResult { matchId := "m", winnerIds := ["b"], now := 1 })] ++
  (List.replicate 25 [Move.access 0, .access 1]).flatten

/-- A result that is submitted and paid after a cancellation has read the
    deposits and before it takes the escrow. -/
def paidAndRefunded : List (Move EndingCall) :=
  [.start (.cancelMatch 1),
    .start (.submitResult { matchId := "m", winnerIds := ["a"], now := 1 })] ++
  List.replicate 4 (.access 0) ++ List.replicate 25 (.access 1) ++ List.replicate 7 (.access 0)

/-- Nearly twice as much as was deposited is paid, as prizes or as prizes and
    refunds, and both calls succeed. -/
theorem not_ending_paysOnce :
    (Straight "m" ((Db.empty.after playedMatch).deposited (matchSource "m"))
      (Db.empty.after playedMatch) ∧
      (Db.empty.after playedMatch).paidOut (matchSource "m") = 0) ∧
    (∀ thread ∈ (endingPool twoResults).threads, thread.rest.unfinished = false) ∧
    ((endingPool twoResults).store.deposited (matchSource "m") = 3000000 ∧
      (endingPool twoResults).store.paidOut (matchSource "m") = 5700000 ∧
      (endingPool twoResults).succeeded = 2) ∧
    ¬ PaidOnce (endingPool twoResults) (matchSource "m") ∧
    (∀ thread ∈ (endingPool paidAndRefunded).threads, thread.rest.unfinished = false) ∧
    ¬ PaidOnce (endingPool paidAndRefunded) (matchSource "m") := by
  have hresults : (endingPool twoResults).store.deposited (matchSource "m") = 3000000 ∧
      (endingPool twoResults).store.paidOut (matchSource "m") = 5700000 ∧
      (endingPool twoResults).succeeded = 2 := by decide +kernel
  refine ⟨⟨playedMatch_straight, by decide +kernel⟩, by decide +kernel, hresults, fun h => ?_,
    by decide +kernel, fun h => ?_⟩
  · -- Both results succeed, and one of them should have.
    have honce := h.once
    rw [hresults.2.2] at honce
    exact absurd honce (by decide)
  · have htwice : (endingPool paidAndRefunded).succeeded = 2 := by decide +kernel
    have honce := h.once
    rw [htwice] at honce
    exact absurd honce (by decide)

/-- The match is read by all three calls, and then the first result is paid
    before the others find the escrow released. -/
def firstResult : List (Move EndingCall) :=
  [.start (.cancelMatch 1),
    .start (.submitResult { matchId := "m", winnerIds := ["a"], now := 1 }),
    .start (.submitResult { matchId := "m", winnerIds := ["b"], now := 1 }),
    .access 0, .access 2] ++
  List.replicate 25 (.access 1) ++ List.replicate 2 (.access 0) ++ List.replicate 10 (.access 2)

theorem ending_paysOnce_firstResult :
    PaidOnce (after (move (EndingCall.program "m")) firstResult ⟨Db.empty.after playedMatch, []⟩)
      (matchSource "m") :=
  ending_paysOnce playedMatch_straight (by decide +kernel) (by decide +kernel)

end Esports

end SvmCourse
