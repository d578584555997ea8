import SvmCourse.Core.Sched
import SvmCourse.Mpc.Wallets

/-!
# Revocation

Calls of the MPC service on one store, interleaved access by access, and what
they should do to revoked shares: a revoked share stays revoked, and a wallet
that is active has enough active shares.

Both break on copies. A signing call saves the shares it loaded, so a share
that was revoked in between is active again. A revocation that leaves too few
shares saves the wallet with the copies it loaded, and its own share, which it
has revoked a moment before, is among them. Two revocations that overlap count
each other's share as active. And a wallet is saved as active before it has
any shares.

Schedules that avoid these four keep the promises. No copy of a share is held
by a signing call while the share is revoked, every revocation leaves enough
shares, those on the way counted as gone, and no wallet is created.

## Main definitions

* `Call`, `program`: The calls.
* `Kept`: What is promised about a move.
* `Allowed`: The moves that avoid the copies.
* `Sound`: The invariant.

## Theorems

* `revocation_kept`: Schedules of such moves keep the promises.
-/

namespace SvmCourse

namespace Mpc

open Core Core.Prog Core.Machine Core.Sched

/-! ### Calls and promises -/

/-- The calls that are interleaved. -/
inductive Call where
  | createMpcWallet (random : Random) (request : CreateMpcWalletRequest)
  | signTransaction (now : Nat) (request : SignTransactionRequest)
  | revokeKeyShare (walletId participantId : String) (shareIndex : Nat)

/-- What a call does, access by access. -/
def program (sha256 : Sha256) : Call → Service Unit
  | .createMpcWallet random request =>
    (createMpcWallet sha256 random request).bind fun _ => done ()
  | .signTransaction now request => (signTransaction sha256 now request).bind fun _ => done ()
  | .revokeKeyShare walletId participantId shareIndex =>
    revokeKeyShare walletId participantId shareIndex

/-- A call on its way. -/
abbrev MpcThread := Thread MpcDb ServiceError Call

/-- Calls on one store. -/
abbrev MpcPool := Pool MpcDb ServiceError Call

/-- A share that is revoked in `s` is revoked in `t`. -/
def StaysRevoked (s t : MpcDb) : Prop :=
  ∀ share ∈ s.keyShares.rows, share.status = .revoked →
    ∃ later, t.keyShares.findOne share.id = some later ∧ later.status = .revoked

/-- Active wallets have enough active shares. -/
def MpcDb.EnoughActive (db : MpcDb) : Prop :=
  ∀ wallet ∈ db.wallets.rows, wallet.status = .active →
    wallet.threshold ≤ (db.load wallet).getActiveSharesCount

instance (db : MpcDb) : Decidable db.EnoughActive :=
  inferInstanceAs (Decidable (∀ wallet ∈ db.wallets.rows, wallet.status = .active →
    wallet.threshold ≤ (db.load wallet).getActiveSharesCount))

/-- A revocation is in progress. -/
def Revoking (pool : MpcPool) : Prop :=
  ∃ thread ∈ pool.threads, thread.rest.unfinished = true ∧
    ∃ walletId participantId shareIndex,
      thread.call = .revokeKeyShare walletId participantId shareIndex

/-- What is promised about a move from `s` to `t`. -/
structure Kept (s t : MpcPool) : Prop where
  revoked : StaysRevoked s.store t.store
  enough : ¬ Revoking t → t.store.EnoughActive

/-! ### Moves that avoid the copies -/

/-- The call signs with a share of the participant. -/
def Call.signs (walletId participantId : String) : Call → Bool
  | .signTransaction _ request => request.walletId = walletId &&
      request.participantShares.any fun entry => entry.participantId = participantId
  | _ => false

/-- The share that a revocation finds. -/
def MpcDb.target (db : MpcDb) (walletId participantId : String) (shareIndex : Nat) :
    Option KeyShare :=
  (db.findRow walletId).bind fun wallet => db.keyShares.rows.find? fun share =>
    share.walletId = wallet.id && share.participantId = participantId &&
      share.shareIndex = shareIndex

theorem findRow_spec {db : MpcDb} {walletId : String} {wallet : MpcWallet}
    (h : db.findRow walletId = some wallet) :
    wallet ∈ db.wallets.rows ∧ wallet.walletId = walletId := by
  have hfound := List.find?_some h
  exact ⟨List.mem_of_find?_eq_some h, of_decide_eq_true hfound⟩

theorem mem_of_target {db : MpcDb} {walletId participantId : String} {shareIndex : Nat}
    {share : KeyShare} (h : db.target walletId participantId shareIndex = some share) :
    share ∈ db.keyShares.rows := by
  rcases Option.bind_eq_some_iff.mp h with ⟨wallet, -, hfind⟩
  exact List.mem_of_find?_eq_some hfind

/-- The share that is found is the participant's, in that wallet. -/
theorem target_spec {db : MpcDb} {walletId participantId : String} {shareIndex : Nat}
    {wallet : MpcWallet} {share : KeyShare} (hrow : db.findRow walletId = some wallet)
    (h : db.target walletId participantId shareIndex = some share) :
    share.walletId = wallet.id ∧ share.participantId = participantId := by
  unfold MpcDb.target at h
  rw [hrow] at h
  have hfound := List.find?_some h
  simp only [Bool.and_eq_true, decide_eq_true_eq] at hfound
  exact hfound.1

/-- There is nothing to revoke. -/
def MpcDb.isRevoked (db : MpcDb) (walletId participantId : String) (shareIndex : Nat) : Bool :=
  (db.target walletId participantId shareIndex).all fun share => share.status = .revoked

/-- The thread is on the way to take a share from the wallet. -/
def MpcDb.isTaking (db : MpcDb) (walletId : String) (thread : MpcThread) : Bool :=
  thread.midway && match thread.call with
    | .revokeKeyShare walletId' participantId shareIndex =>
      walletId' = walletId && !db.isRevoked walletId' participantId shareIndex
    | _ => false

/-- The shares of the wallet that are about to go. -/
def taking (pool : MpcPool) (walletId : String) : Nat :=
  pool.threads.countP (pool.store.isTaking walletId)

/-- One more share can go, besides those that are about to. -/
def LeavesEnough (pool : MpcPool) (walletId : String) : Prop :=
  ∀ wallet, pool.store.findWallet walletId = some wallet →
    wallet.threshold + taking pool walletId + 1 ≤ wallet.getActiveSharesCount

/-- The next access of a call is one that no copy can spoil. -/
def Call.MayAccess (call : Call) (made : Nat) (pool : MpcPool) : Prop :=
  match call with
  | .createMpcWallet _ _ => False
  | .signTransaction _ _ => True
  | .revokeKeyShare walletId participantId shareIndex =>
    (∀ thread ∈ pool.threads, thread.midway = true →
      thread.call.signs walletId participantId = false) ∧
    (made = 0 → pool.store.isRevoked walletId participantId shareIndex = false →
      LeavesEnough pool walletId)

/-- The move avoids the copies. -/
def Allowed (m : Move Call) (pool : MpcPool) : Prop :=
  match m with
  | .start _ => True
  | .access i => ∀ thread, pool.threads[i]? = some thread → thread.rest.unfinished = true →
      thread.call.MayAccess thread.made pool

/-! ### Stored shares -/

section Stored

variable {s t : MpcDb}

/-- The active shares of a wallet, as a sum. -/
def MpcDb.active (db : MpcDb) (id : Nat) : Int :=
  db.keyShares.sum fun share => if share.walletId = id && share.isActive then 1 else 0

theorem active_load (db : MpcDb) (wallet : MpcWallet) :
    ((db.load wallet).getActiveSharesCount : Int) = db.active wallet.id := by
  unfold LoadedMpcWallet.getActiveSharesCount MpcDb.active MpcDb.load Table.sum
  induction db.keyShares.rows with
  | nil => rfl
  | cons share rows ih =>
      rw [List.map_cons, List.sum_cons, ← ih]
      by_cases hmine : share.walletId = wallet.id
      · by_cases hactive : share.isActive
        · simp [hmine, hactive]
          omega
        · simp [hmine, hactive]
      · simp [hmine]

theorem enoughActive_iff {db : MpcDb} :
    db.EnoughActive ↔ ∀ wallet ∈ db.wallets.rows, wallet.status = .active →
      (wallet.threshold : Int) ≤ db.active wallet.id := by
  unfold MpcDb.EnoughActive
  simp only [← active_load, Int.ofNat_le]

/-- The share less the note of its use. -/
def KeyShare.unused (share : KeyShare) : KeyShare := { share with lastUsedAt := none }

/-- The share less its status too. -/
def KeyShare.plain (share : KeyShare) : KeyShare := { share.unused with status := .active }

/-- The copy is what is stored, but for its use. -/
def MpcDb.Holds (db : MpcDb) (copy : KeyShare) : Prop :=
  ∃ stored ∈ db.keyShares.rows, stored.unused = copy.unused

theorem MpcDb.Holds.findOne {db : MpcDb} {copy : KeyShare} (h : db.Holds copy) :
    ∃ stored, db.keyShares.findOne copy.id = some stored ∧ stored.unused = copy.unused := by
  rcases h with ⟨stored, hstored, hsame⟩
  have hid : stored.id = copy.id := congrArg (fun share => share.id) hsame
  exact ⟨stored, hid ▸ Table.findOne_of_mem hstored, hsame⟩

/-! ### Saving used shares -/

theorem plain_of_unused {a b : KeyShare} (h : a.unused = b.unused) : a.plain = b.plain :=
  congrArg (fun share : KeyShare => { share with status := .active }) h

/-- Stores that differ in when shares were used, and in nothing else. -/
structure SameButUse (s t : MpcDb) : Prop where
  wallets : t.wallets = s.wallets
  keyShares : t.keyShares.rows.map KeyShare.unused = s.keyShares.rows.map KeyShare.unused

theorem SameButUse.active (h : SameButUse s t) (id : Nat) : t.active id = s.active id := by
  have hsum : ∀ db : MpcDb, db.active id = ((db.keyShares.rows.map KeyShare.unused).map
      fun share => if share.walletId = id && share.isActive then (1 : Int) else 0).sum := by
    intro db
    rw [List.map_map]
    rfl
  rw [hsum, hsum, h.keyShares]

theorem SameButUse.findRow (h : SameButUse s t) (walletId : String) :
    t.findRow walletId = s.findRow walletId := by
  unfold MpcDb.findRow
  rw [h.wallets]

theorem SameButUse.holds (h : SameButUse s t) {copy : KeyShare} (hcopy : s.Holds copy) :
    t.Holds copy := by
  rcases hcopy with ⟨stored, hstored, hsame⟩
  have hmem : stored.unused ∈ t.keyShares.rows.map KeyShare.unused := by
    rw [h.keyShares]
    exact List.mem_map_of_mem hstored
  rcases List.mem_map.mp hmem with ⟨later, hlater, hboth⟩
  exact ⟨later, hlater, hboth.trans hsame⟩

/-- A revocation finds the same share. -/
theorem SameButUse.target (h : SameButUse s t) (walletId participantId : String)
    (shareIndex : Nat) :
    (t.target walletId participantId shareIndex).map KeyShare.unused =
      (s.target walletId participantId shareIndex).map KeyShare.unused := by
  unfold MpcDb.target
  rw [h.findRow]
  cases s.findRow walletId with
  | none => rfl
  | some wallet =>
      -- The share is looked for by what the use does not change.
      have hfind : ∀ db : MpcDb, (db.keyShares.rows.find? fun share =>
            share.walletId = wallet.id && share.participantId = participantId &&
              share.shareIndex = shareIndex).map KeyShare.unused =
          (db.keyShares.rows.map KeyShare.unused).find? fun share =>
            share.walletId = wallet.id && share.participantId = participantId &&
              share.shareIndex = shareIndex := by
        intro db
        rw [List.find?_map]
        rfl
      exact (hfind t).trans ((congrArg _ h.keyShares).trans (hfind s).symm)

theorem SameButUse.isRevoked (h : SameButUse s t) (walletId participantId : String)
    (shareIndex : Nat) :
    t.isRevoked walletId participantId shareIndex =
      s.isRevoked walletId participantId shareIndex := by
  have hall : ∀ found : Option KeyShare, (found.all fun share => share.status = .revoked) =
      (found.map KeyShare.unused).all fun share => share.status = .revoked := by
    intro found
    cases found <;> rfl
  unfold MpcDb.isRevoked
  rw [hall, h.target, ← hall]

theorem SameButUse.staysRevoked (h : SameButUse s t) : StaysRevoked s t := by
  intro share hshare hrevoked
  rcases (h.holds ⟨share, hshare, rfl⟩).findOne with ⟨later, hlater, hsame⟩
  refine ⟨later, hlater, ?_⟩
  have hstatus : later.status = share.status := congrArg (fun share => share.status) hsame
  rw [hstatus, hrevoked]

theorem SameButUse.enoughActive (h : SameButUse s t) (hs : s.EnoughActive) : t.EnoughActive := by
  rw [enoughActive_iff] at hs ⊢
  intro wallet hwallet hstatus
  rw [h.wallets] at hwallet
  rw [h.active]
  exact hs wallet hwallet hstatus

theorem sameButUse_refl (s : MpcDb) : SameButUse s s := ⟨rfl, rfl⟩

/-- Saving copies of what is stored changes when they were used. -/
theorem sameButUse_saveShares {copies : List KeyShare} (h : ∀ copy ∈ copies, s.Holds copy) :
    SameButUse s (s.saveShares copies) := by
  induction copies generalizing s with
  | nil => exact sameButUse_refl s
  | cons copy copies ih =>
      rcases (h copy List.mem_cons_self).findOne with ⟨stored, hstored, hsame⟩
      have hone : SameButUse s (s.saveShares [copy]) :=
        ⟨rfl, Table.map_save hstored hsame.symm⟩
      have hrest := ih (s := s.saveShares [copy]) fun other hother =>
        hone.holds (h other (List.mem_cons_of_mem _ hother))
      exact ⟨hrest.wallets, hrest.keyShares.trans hone.keyShares⟩

/-! ### Saving a revoked share -/

/-- The copy is what is stored, but for its use and its status. -/
def MpcDb.Knows (db : MpcDb) (copy : KeyShare) : Prop :=
  ∃ stored ∈ db.keyShares.rows, stored.plain = copy.plain

/-- The store after a share was revoked. -/
def MpcDb.revoke (db : MpcDb) (share : KeyShare) : MpcDb :=
  db.saveShares [{ share with status := .revoked }]

variable {share : KeyShare}

theorem MpcDb.Knows.findOne (h : s.Knows share) :
    ∃ stored, s.keyShares.findOne share.id = some stored ∧ stored.plain = share.plain := by
  rcases h with ⟨stored, hstored, hsame⟩
  have hid : stored.id = share.id := congrArg (fun share => share.id) hsame
  exact ⟨stored, hid ▸ Table.findOne_of_mem hstored, hsame⟩

/-- The wallet loses the share, if it was active. -/
theorem active_revoke {stored : KeyShare} (h : s.keyShares.findOne share.id = some stored)
    (id : Nat) :
    (s.revoke share).active id =
      s.active id - if stored.walletId = id && stored.isActive then 1 else 0 := by
  have hsum := Table.sum_save (r := { share with status := .revoked })
    (f := fun share => if share.walletId = id && share.isActive then (1 : Int) else 0) h
  have hnew : (if share.walletId = id &&
      KeyShare.isActive { share with status := .revoked } then (1 : Int) else 0) = 0 := by
    simp [KeyShare.isActive]
  unfold MpcDb.active MpcDb.revoke MpcDb.saveShares
  rw [List.foldl_cons, List.foldl_nil, hsum, hnew]
  omega

theorem holds_revoke {copy : KeyShare} (h : s.Holds copy) (hne : copy.id ≠ share.id) :
    (s.revoke share).Holds copy := by
  rcases h with ⟨stored, hstored, hsame⟩
  have hid : stored.id = copy.id := congrArg (fun share => share.id) hsame
  refine ⟨stored, Table.mem_save.mpr (Or.inr ⟨hstored, ?_⟩), hsame⟩
  rw [hid]
  exact hne

/-- A revocation finds the share where it was. -/
theorem target_revoke (h : s.Knows share) (walletId participantId : String) (shareIndex : Nat) :
    (s.revoke share).target walletId participantId shareIndex =
      (s.target walletId participantId shareIndex).map fun other =>
        if other.id = share.id then { share with status := .revoked } else other := by
  rcases h.findOne with ⟨stored, hstored, hsame⟩
  have hrow : (s.revoke share).findRow walletId = s.findRow walletId := rfl
  unfold MpcDb.target
  rw [hrow]
  cases s.findRow walletId with
  | none => rfl
  | some wallet =>
      -- The saved share takes the place of the one that it was loaded from.
      refine Table.find?_save (r := { share with status := .revoked }) hstored ?_
      have hwallet : stored.walletId = share.walletId :=
        congrArg (fun share => share.walletId) hsame
      have hparticipant : stored.participantId = share.participantId :=
        congrArg (fun share => share.participantId) hsame
      have hindex : stored.shareIndex = share.shareIndex :=
        congrArg (fun share => share.shareIndex) hsame
      rw [hwallet, hparticipant, hindex]

theorem isRevoked_revoke (h : s.Knows share) {walletId participantId : String} {shareIndex : Nat}
    (hrevoked : s.isRevoked walletId participantId shareIndex = true) :
    (s.revoke share).isRevoked walletId participantId shareIndex = true := by
  unfold MpcDb.isRevoked at hrevoked ⊢
  rw [target_revoke h]
  cases htarget : s.target walletId participantId shareIndex with
  | none => rfl
  | some other =>
      rw [htarget] at hrevoked
      by_cases hid : other.id = share.id
      · simp [hid]
      · simpa [hid] using hrevoked

theorem staysRevoked_revoke : StaysRevoked s (s.revoke share) := by
  intro other hother hrevoked
  by_cases hid : other.id = share.id
  · refine ⟨{ share with status := .revoked }, ?_, rfl⟩
    rw [hid]
    exact Table.findOne_save_self s.keyShares { share with status := .revoked }
  · refine ⟨other, ?_, hrevoked⟩
    exact (Table.findOne_save_of_ne (r := { share with status := .revoked }) hid).trans
      (Table.findOne_of_mem hother)

end Stored

/-! ### What is left of a call -/

/-- A signing call that has loaded its wallet is finished, or saves copies of
    active shares. -/
def SignPhase (db : MpcDb) (request : SignTransactionRequest) (rest : Service Unit) : Prop :=
  rest.unfinished = false ∨ ∃ wallet copies next fail,
    rest = .access (fun db => ((), db.saveShares copies)) next fail ∧
    (∀ u : Unit, (next u).unfinished = false) ∧ db.findRow request.walletId = some wallet ∧
    ∀ copy ∈ copies, db.Holds copy ∧ copy.status = .active ∧ copy.walletId = wallet.id ∧
      (request.participantShares.any fun entry => entry.participantId = copy.participantId) = true

/-- A revocation that has loaded its wallet is finished, or looks for its
    share, or saves it. -/
def RevokePhase (db : MpcDb) (walletId participantId : String) (shareIndex : Nat)
    (rest : Service Unit) : Prop :=
  rest.unfinished = false ∨ ∃ wallet : LoadedMpcWallet,
    db.findRow walletId = some wallet.toMpcWallet ∧
    -- The wallet is loaded, and the shares are about to be looked through.
    ((rest = findAndRevoke participantId shareIndex wallet ∧
        (db.isRevoked walletId participantId shareIndex = false →
          wallet.threshold + 1 ≤ wallet.getActiveSharesCount)) ∨
      -- The share is found, and about to be saved as revoked.
      ∃ share stored, rest = revokeShare wallet share ∧ share.status ≠ .revoked ∧
        db.target walletId participantId shareIndex = some stored ∧ stored.plain = share.plain ∧
        wallet.threshold + 1 ≤ wallet.getActiveSharesCount)

/-- A thread makes its first access, or is in one of the phases of its call. -/
def Local (sha256 : Sha256) (db : MpcDb) (thread : MpcThread) : Prop :=
  thread.made = 0 ∧ thread.rest = program sha256 thread.call ∨
  0 < thread.made ∧ match thread.call with
    | .createMpcWallet _ _ => False
    | .signTransaction _ request => SignPhase db request thread.rest
    | .revokeKeyShare walletId participantId shareIndex =>
      RevokePhase db walletId participantId shareIndex thread.rest

/-- Every active wallet has enough shares, and enough to spare for those that
    are about to go. -/
structure Sound (sha256 : Sha256) (pool : MpcPool) : Prop where
  enough : pool.store.EnoughActive
  spare : ∀ walletId wallet, pool.store.findRow walletId = some wallet →
    0 < taking pool walletId →
    (wallet.threshold : Int) + taking pool walletId ≤ pool.store.active wallet.id
  threads : ∀ thread ∈ pool.threads, Local sha256 pool.store thread

section Phases

variable {sha256 : Sha256} {s t : MpcDb}

/-- What another thread may do to the store while this one waits. -/
theorem local_of_sameButUse (h : SameButUse s t) {thread : MpcThread}
    (hlocal : Local sha256 s thread) : Local sha256 t thread := by
  refine hlocal.imp id fun hphase => ⟨hphase.1, ?_⟩
  have hmid := hphase.2
  cases hcall : thread.call with
  | createMpcWallet random request => simp only [hcall] at hmid
  | signTransaction now request =>
      -- The copies a signing is about to save are still shares of the store.
      simp only [hcall] at hmid ⊢
      refine hmid.imp id fun hsaving => ?_
      rcases hsaving with ⟨wallet, copies, next, fail, hrest, hnext, hrow, hcopies⟩
      refine ⟨wallet, copies, next, fail, hrest, hnext, (h.findRow _).trans hrow, ?_⟩
      exact fun copy hcopy => ⟨h.holds (hcopies copy hcopy).1, (hcopies copy hcopy).2⟩
  | revokeKeyShare walletId participantId shareIndex =>
      -- The share a revocation is about to save is the same, but for its use.
      simp only [hcall] at hmid ⊢
      refine hmid.imp id fun hwaiting => ?_
      rcases hwaiting with ⟨wallet, hrow, hphase⟩
      refine ⟨wallet, (h.findRow _).trans hrow, hphase.imp (fun hlook => ?_) fun hsave => ?_⟩
      · exact ⟨hlook.1, fun hnot => hlook.2 ((h.isRevoked ..).symm.trans hnot)⟩
      · rcases hsave with ⟨share, stored, hrest, hstatus, htarget, hsame, hspare⟩
        have hmap := h.target walletId participantId shareIndex
        rw [htarget, Option.map_some] at hmap
        rcases Option.map_eq_some_iff.mp hmap with ⟨later, hlater, hboth⟩
        refine ⟨share, later, hrest, hstatus, hlater, ?_, hspare⟩
        exact (plain_of_unused hboth).trans hsame

/-- A share may be revoked when no call signs with a copy of it. -/
theorem local_of_revoke {share : KeyShare} (hknows : s.Knows share)
    {walletId participantId : String} {wallet : MpcWallet}
    (hrow : s.findRow walletId = some wallet) (hwallet : share.walletId = wallet.id)
    (hparticipant : share.participantId = participantId) {thread : MpcThread}
    (hsigns : thread.midway = true → thread.call.signs walletId participantId = false)
    (hlocal : Local sha256 s thread) : Local sha256 (s.revoke share) thread := by
  refine hlocal.imp id fun hphase => ⟨hphase.1, ?_⟩
  have hmid := hphase.2
  cases hcall : thread.call with
  | createMpcWallet random request => simp only [hcall] at hmid
  | signTransaction now request =>
      simp only [hcall] at hmid ⊢
      refine hmid.imp id fun hsaving => ?_
      rcases hsaving with ⟨other, copies, next, fail, hrest, hnext, hother, hcopies⟩
      refine ⟨other, copies, next, fail, hrest, hnext, hother, fun copy hcopy => ?_⟩
      rcases hcopies copy hcopy with ⟨hholds, hstatus, hmine, hlisted⟩
      refine ⟨holds_revoke hholds fun hid => ?_, hstatus, hmine, hlisted⟩
      -- The copy would be of the share, so the call would sign with it.
      rcases hholds.findOne with ⟨stored, hstored, hcopy'⟩
      rcases hknows.findOne with ⟨known, hknown, hshare⟩
      obtain rfl : stored = known :=
        Option.some.inj ((hid ▸ hstored).symm.trans hknown)
      have hsame : copy.plain = share.plain := (plain_of_unused hcopy').symm.trans hshare
      have hsamewallet : copy.walletId = share.walletId := congrArg (fun c => c.walletId) hsame
      have hsameparticipant : copy.participantId = share.participantId :=
        congrArg (fun c => c.participantId) hsame
      have hrows : other = wallet := Table.eq_of_key (findRow_spec hother).1
        (findRow_spec hrow).1 (hmine.symm.trans (hsamewallet.trans hwallet))
      have hid₁ := (findRow_spec hother).2
      have hid₂ := (findRow_spec hrow).2
      have hmidway : thread.midway = true := by
        simp [Thread.midway, hphase.1, hrest, unfinished]
      have hfalse := hsigns hmidway
      rw [hsameparticipant, hparticipant] at hlisted
      rw [hrows, hid₂] at hid₁
      simp [hcall, Call.signs, ← hid₁, hlisted] at hfalse
  | revokeKeyShare walletId' participantId' shareIndex =>
      simp only [hcall] at hmid ⊢
      refine hmid.imp id fun hwaiting => ?_
      rcases hwaiting with ⟨other, hother, hphase⟩
      refine ⟨other, hother, hphase.imp (fun hlook => ?_) fun hsave => ?_⟩
      · refine ⟨hlook.1, fun hnot => hlook.2 ?_⟩
        by_contra hrevoked
        rw [isRevoked_revoke hknows (Bool.not_eq_false _ |>.mp hrevoked)] at hnot
        exact nomatch hnot
      · rcases hsave with ⟨share', stored, hrest, hstatus, htarget, hsame, hspare⟩
        have hmap := target_revoke hknows walletId' participantId' shareIndex
        rw [htarget, Option.map_some] at hmap
        refine ⟨share', _, hrest, hstatus, hmap, ?_, hspare⟩
        by_cases hid : stored.id = share.id
        · rcases hknows.findOne with ⟨known, hknown, hshare⟩
          have hstored := Table.findOne_of_mem (mem_of_target htarget)
          rw [hid, hknown, Option.some.injEq] at hstored
          rw [if_pos hid, ← hsame, ← hstored]
          exact hshare.symm
        · rw [if_neg hid]
          exact hsame

/-! ### Accesses -/

/-- What the validation loop has found. -/
theorem mem_validateParticipantShares {wallet : LoadedMpcWallet} {entries : List ParticipantShare}
    {validShare : ValidShare} (h : validShare ∈ validateParticipantShares wallet entries) :
    validShare.share ∈ wallet.keyShares ∧ validShare.share.status = .active ∧
      (entries.any fun entry => entry.participantId = validShare.share.participantId) = true := by
  rcases List.mem_filterMap.mp h with ⟨entry, hentry, hvalid⟩
  unfold validateParticipantShare at hvalid
  cases hfind : wallet.keyShares.find? fun s =>
      s.participantId = entry.participantId && s.isActive with
  | none =>
      rw [hfind] at hvalid
      exact nomatch hvalid
  | some share =>
      have hfound := List.find?_some hfind
      simp only [Bool.and_eq_true, decide_eq_true_eq, KeyShare.isActive] at hfound
      rw [hfind] at hvalid
      cases hsignature : entry.signatureShare with
      | none =>
          rw [hsignature] at hvalid
          exact nomatch hvalid
      | some signatureShare =>
          simp only [hsignature] at hvalid
          -- Only a well-formed signature share of an active key share is kept.
          by_cases hform : wellFormed signatureShare
          · rw [if_pos hform, Option.some.injEq] at hvalid
            subst hvalid
            refine ⟨List.mem_of_find?_eq_some hfind, hfound.2, ?_⟩
            exact List.any_eq_true.mpr ⟨entry, hentry, decide_eq_true hfound.1.symm⟩
          · rw [if_neg hform] at hvalid
            exact nomatch hvalid

/-- A signing call that has loaded its wallet is in its phase. -/
theorem signPhase_signLoaded {now : Nat} {request : SignTransactionRequest} {db : MpcDb}
    {wallet : MpcWallet} (hrow : db.findRow request.walletId = some wallet) :
    SignPhase db request
      ((signLoaded sha256 now request (db.load wallet)).bind fun _ => done ()) := by
  unfold signLoaded
  by_cases hactive : (db.load wallet).isActive
  · by_cases hlong : (db.load wallet).threshold ≤ request.participantShares.length
    · rw [hactive, decide_eq_true hlong]
      unfold signWithShares
      -- With enough valid shares the call goes on to save their copies.
      by_cases hvalid : (db.load wallet).threshold ≤
          (validateParticipantShares (db.load wallet) request.participantShares).length
      · simp only [decide_eq_true hvalid]
        refine Or.inr ⟨wallet, _, fun _ => done (), _, rfl, fun _ => rfl, hrow, ?_⟩
        intro copy hcopy
        rcases List.mem_map.mp hcopy with ⟨validShare, hmem, rfl⟩
        rcases mem_validateParticipantShares hmem with ⟨hshare, hstatus, hlisted⟩
        rcases List.mem_filter.mp hshare with ⟨hstored, hmine⟩
        exact ⟨⟨validShare.share, hstored, rfl⟩, hstatus, of_decide_eq_true hmine, hlisted⟩
      · simp only [decide_eq_false hvalid]
        exact Or.inl rfl
    · -- All other outcomes are errors, and the call is over.
      rw [hactive, decide_eq_false hlong]
      exact Or.inl rfl
  · rw [Bool.not_eq_true] at hactive
    rw [hactive]
    exact Or.inl rfl

/-- A signing call first loads its wallet. -/
theorem program_sign (sha256 : Sha256) (now : Nat) (request : SignTransactionRequest) :
    ∃ next fail, program sha256 (.signTransaction now request) =
        .access (fun db => (db.findWallet request.walletId, db)) next fail ∧
      ∀ db, SignPhase db request (next (db.findWallet request.walletId)) := by
  refine ⟨_, _, rfl, fun db => ?_⟩
  unfold MpcDb.findWallet
  cases hrow : db.findRow request.walletId with
  | none => exact Or.inl rfl
  | some wallet => exact signPhase_signLoaded hrow

/-- So does a revocation. -/
theorem program_revoke (sha256 : Sha256) (walletId participantId : String) (shareIndex : Nat) :
    ∃ next fail, program sha256 (.revokeKeyShare walletId participantId shareIndex) =
        .access (fun db => (db.findWallet walletId, db)) next fail ∧
      (next none).unfinished = false ∧
      ∀ wallet, next (some wallet) = findAndRevoke participantId shareIndex wallet :=
  ⟨_, _, rfl, rfl, fun _ => rfl⟩

/-- Then it looks for its share. -/
theorem findAndRevoke_eq (participantId : String) (shareIndex : Nat) (wallet : LoadedMpcWallet) :
    ∃ next fail, findAndRevoke participantId shareIndex wallet =
        .access (fun db => (db.keyShares.rows.find? fun share =>
          share.walletId = wallet.id && share.participantId = participantId &&
            share.shareIndex = shareIndex, db)) next fail ∧
      (next none).unfinished = false ∧ ∀ share, next (some share) = revokeShare wallet share :=
  ⟨_, _, rfl, rfl, fun _ => rfl⟩

/-- At last it revokes the share, unless that was done before. It is finished
    then, when the wallet has enough shares. -/
theorem revokeShare_eq {wallet : LoadedMpcWallet} {share : KeyShare}
    (hstatus : share.status ≠ .revoked)
    (hspare : wallet.threshold + 1 ≤ wallet.getActiveSharesCount) :
    ∃ next fail, revokeShare wallet share =
        .access (fun db => ((), db.revoke share)) next fail ∧
      ∀ u : Unit, (next u).unfinished = false := by
  have henough : ¬ ((wallet.getActiveSharesCount : Int) - 1 < wallet.threshold) := by omega
  unfold revokeShare
  rw [if_neg hstatus]
  simp only [if_neg henough]
  exact ⟨_, _, rfl, fun _ => rfl⟩

theorem revokeShare_finished {wallet : LoadedMpcWallet} {share : KeyShare}
    (hstatus : share.status = .revoked) : (revokeShare wallet share).unfinished = false := by
  unfold revokeShare
  rw [if_pos hstatus]
  rfl

/-! ### Shares that are about to go -/

variable {before after : List MpcThread} {thread thread' : MpcThread} {walletId : String}

theorem taking_split (s : MpcDb) (before after : List MpcThread) (thread : MpcThread)
    (walletId : String) :
    taking ⟨s, before ++ thread :: after⟩ walletId =
      before.countP (s.isTaking walletId) + after.countP (s.isTaking walletId) +
        if s.isTaking walletId thread then 1 else 0 := by
  change (before ++ thread :: after).countP (s.isTaking walletId) = _
  rw [List.countP_append, List.countP_cons]
  omega

/-- No more shares are about to go when no thread has begun to take one. -/
theorem taking_le (hall : ∀ thread, t.isTaking walletId thread = true →
      s.isTaking walletId thread = true)
    (hthread : t.isTaking walletId thread' = true → s.isTaking walletId thread = true) :
    taking ⟨t, before ++ thread' :: after⟩ walletId ≤
      taking ⟨s, before ++ thread :: after⟩ walletId := by
  have hbefore := List.countP_mono_left (l := before) fun thread _ => hall thread
  have hafter := List.countP_mono_left (l := after) fun thread _ => hall thread
  rw [taking_split, taking_split]
  by_cases h : t.isTaking walletId thread' = true
  · rw [if_pos h, if_pos (hthread h)]
    omega
  · rw [if_neg h]
    omega

/-- One share less is about to go when a thread has taken its own. -/
theorem taking_lt (hall : ∀ thread, t.isTaking walletId thread = true →
      s.isTaking walletId thread = true)
    (hthread : s.isTaking walletId thread = true) (hdone : t.isTaking walletId thread' = false) :
    taking ⟨t, before ++ thread' :: after⟩ walletId <
      taking ⟨s, before ++ thread :: after⟩ walletId := by
  have hbefore := List.countP_mono_left (l := before) fun thread _ => hall thread
  have hafter := List.countP_mono_left (l := after) fun thread _ => hall thread
  rw [taking_split, taking_split, if_pos hthread, hdone, if_neg Bool.false_ne_true]
  omega

theorem taking_le_succ (s : MpcDb) (before after : List MpcThread) (thread thread' : MpcThread)
    (walletId : String) :
    taking ⟨s, before ++ thread' :: after⟩ walletId ≤
      taking ⟨s, before ++ thread :: after⟩ walletId + 1 := by
  rw [taking_split, taking_split]
  split <;> split <;> omega

theorem isTaking_of_isRevoked
    (h : ∀ participantId shareIndex, s.isRevoked walletId participantId shareIndex = true →
      t.isRevoked walletId participantId shareIndex = true)
    (htaking : t.isTaking walletId thread = true) : s.isTaking walletId thread = true := by
  unfold MpcDb.isTaking at htaking ⊢
  rw [Bool.and_eq_true] at htaking ⊢
  refine ⟨htaking.1, ?_⟩
  have hmatch := htaking.2
  -- Only a revocation takes a share, and none once its share is revoked.
  cases hcall : thread.call with
  | createMpcWallet random request => simp only [hcall, Bool.false_eq_true] at hmatch
  | signTransaction now request => simp only [hcall, Bool.false_eq_true] at hmatch
  | revokeKeyShare walletId' participantId shareIndex =>
      simp only [hcall, Bool.and_eq_true, decide_eq_true_eq, Bool.not_eq_true'] at hmatch ⊢
      rcases hmatch with ⟨rfl, hnot⟩
      refine ⟨rfl, ?_⟩
      by_contra hrevoked
      rw [Bool.not_eq_false] at hrevoked
      rw [h _ _ hrevoked] at hnot
      exact nomatch hnot

/-- A thread that waits does not take. -/
theorem isTaking_finished (hrest : thread.rest.unfinished = false) :
    s.isTaking walletId thread = false := by
  simp [MpcDb.isTaking, Thread.midway, hrest]

/-- An access that changes no status and begins to take no share. -/
theorem Sound.sameButUse (h : Sound sha256 ⟨s, before ++ thread :: after⟩) (hsame : SameButUse s t)
    (hlocal : Local sha256 t thread')
    (hthread : ∀ walletId, t.isTaking walletId thread' = true →
      s.isTaking walletId thread = true) :
    Sound sha256 ⟨t, before ++ thread' :: after⟩ := by
  refine ⟨hsame.enoughActive h.enough, fun walletId wallet hrow hpos => ?_, fun other hother => ?_⟩
  · -- Calls that still take a share are as many at most, and the active shares are
    -- the same.
    have hle : taking ⟨t, before ++ thread' :: after⟩ walletId ≤
        taking ⟨s, before ++ thread :: after⟩ walletId :=
      taking_le (fun thread => isTaking_of_isRevoked fun _ _ hrevoked =>
        (hsame.isRevoked ..).trans hrevoked) (hthread walletId)
    have hspare : _ ≤ s.active wallet.id := h.spare walletId wallet
      ((hsame.findRow walletId).symm.trans hrow) (Nat.lt_of_lt_of_le hpos hle)
    rw [hsame.active]
    omega
  · rcases List.mem_append.mp hother with hmem | hmem
    · exact local_of_sameButUse hsame (h.threads other (List.mem_append_left _ hmem))
    · rcases List.mem_cons.mp hmem with rfl | hmem
      · exact hlocal
      · exact local_of_sameButUse hsame
          (h.threads other (List.mem_append_right _ (List.mem_cons_of_mem _ hmem)))

theorem kept_of_sameButUse {threads threads' : List MpcThread} (hs : s.EnoughActive)
    (hsame : SameButUse s t) : Kept ⟨s, threads⟩ ⟨t, threads'⟩ :=
  ⟨hsame.staysRevoked, fun _ => hsame.enoughActive hs⟩

/-! ### The accesses of a call -/

theorem getElem?_middle (before after : List MpcThread) (thread : MpcThread) :
    (before ++ thread :: after)[before.length]? = some thread := by
  simp

/-- A signing call keeps the invariant. -/
theorem access_sign {now : Nat} {request : SignTransactionRequest} {made : Nat} {β : Type}
    {act : MpcDb → β × MpcDb} {next : β → Service Unit} {fail : Service Unit}
    (h : Sound sha256
      ⟨s, before ++ ⟨.signTransaction now request, made, .access act next fail⟩ :: after⟩) :
    SameButUse s (act s).2 ∧ Sound sha256 ⟨(act s).2,
      before ++ ⟨.signTransaction now request, made + 1, next (act s).1⟩ :: after⟩ := by
  have hlocal := h.threads ⟨.signTransaction now request, made, .access act next fail⟩
    (List.mem_append_right _ List.mem_cons_self)
  -- A signing takes no share away.
  have hnot : ∀ walletId, (act s).2.isTaking walletId
      ⟨.signTransaction now request, made + 1, next (act s).1⟩ = true →
        s.isTaking walletId ⟨.signTransaction now request, made, .access act next fail⟩ = true := by
    intro walletId htaking
    simp [MpcDb.isTaking] at htaking
  rcases hlocal with ⟨-, hrest⟩ | ⟨-, hdone |
    ⟨wallet, copies, next', fail', hrest, hnext, -, hcopies⟩⟩
  · -- The first access loads the wallet.
    rcases program_sign sha256 now request with ⟨next', fail', hprogram, hphase⟩
    cases hrest.trans hprogram
    exact ⟨sameButUse_refl s, h.sameButUse (sameButUse_refl s)
      (Or.inr ⟨Nat.succ_pos made, hphase s⟩) hnot⟩
  · exact nomatch hdone
  · -- The second saves the copies, which changes how often the shares were used.
    cases hrest
    have hsame := sameButUse_saveShares fun copy hcopy => (hcopies copy hcopy).1
    exact ⟨hsame, h.sameButUse hsame (Or.inr ⟨Nat.succ_pos made, Or.inl (hnext ())⟩) hnot⟩

section Revoke

variable {participantId : String} {shareIndex made : Nat}

/-- A revocation that has loaded its wallet counts as one that takes a share. -/
theorem isTaking_revoke {rest : Service Unit} (hrest : rest.unfinished = true)
    (hnot : s.isRevoked walletId participantId shareIndex = false) :
    s.isTaking walletId ⟨.revokeKeyShare walletId participantId shareIndex, made + 1, rest⟩ =
      true := by
  simp [MpcDb.isTaking, Thread.midway, hrest, hnot]

/-- What a revocation takes, it takes from its own wallet and while its share is
    not revoked. -/
theorem isTaking_revoke_iff {rest : Service Unit} {walletId' : String} :
    s.isTaking walletId' ⟨.revokeKeyShare walletId participantId shareIndex, made, rest⟩ = true ↔
      (0 < made ∧ rest.unfinished = true) ∧ walletId = walletId' ∧
        s.isRevoked walletId participantId shareIndex = false := by
  simp [MpcDb.isTaking, Thread.midway]

/-- Loading the wallet leaves one share less to spare. -/
theorem sound_load {rest : Service Unit} {fresh : Service Unit}
    (h : Sound sha256 ⟨s, before ++
      ⟨.revokeKeyShare walletId participantId shareIndex, 0, fresh⟩ :: after⟩)
    (hleaves : s.isRevoked walletId participantId shareIndex = false →
      LeavesEnough ⟨s, before ++
        ⟨.revokeKeyShare walletId participantId shareIndex, 0, fresh⟩ :: after⟩ walletId)
    (hphase : RevokePhase s walletId participantId shareIndex rest) :
    Sound sha256 ⟨s, before ++
      ⟨.revokeKeyShare walletId participantId shareIndex, 1, rest⟩ :: after⟩ := by
  refine ⟨h.enough, fun walletId' wallet hrow hpos => ?_, fun other hother => ?_⟩
  · -- Only this call may have begun to take a share, and then it left enough.
    by_cases hnew : s.isTaking walletId'
        ⟨.revokeKeyShare walletId participantId shareIndex, 1, rest⟩ = true
    · rcases isTaking_revoke_iff.mp hnew with ⟨-, rfl, hnot⟩
      have hfind : s.findWallet walletId = some (s.load wallet) := by
        unfold MpcDb.findWallet
        rw [hrow, Option.map_some]
      have hspare := hleaves hnot (s.load wallet) hfind
      have hle := taking_le_succ s before after
        ⟨.revokeKeyShare walletId participantId shareIndex, 0, fresh⟩
        ⟨.revokeKeyShare walletId participantId shareIndex, 1, rest⟩ walletId
      have hthreshold : (s.load wallet).threshold = wallet.threshold := rfl
      have hactive := active_load s wallet
      change _ ≤ s.active wallet.id
      omega
    · have hle : taking ⟨s, before ++
            ⟨.revokeKeyShare walletId participantId shareIndex, 1, rest⟩ :: after⟩ walletId' ≤
          taking ⟨s, before ++
            ⟨.revokeKeyShare walletId participantId shareIndex, 0, fresh⟩ :: after⟩ walletId' :=
        taking_le (fun _ htaking => htaking) fun htaking => absurd htaking hnew
      have hspare : _ ≤ s.active wallet.id :=
        h.spare walletId' wallet hrow (Nat.lt_of_lt_of_le hpos hle)
      change _ ≤ s.active wallet.id
      omega
  · rcases List.mem_append.mp hother with hmem | hmem
    · exact h.threads other (List.mem_append_left _ hmem)
    · rcases List.mem_cons.mp hmem with rfl | hmem
      · exact Or.inr ⟨Nat.one_pos, hphase⟩
      · exact h.threads other (List.mem_append_right _ (List.mem_cons_of_mem _ hmem))

/-- A revocation is about to save its copy of a share of the wallet. -/
structure Takes (s : MpcDb) (walletId participantId : String) (shareIndex : Nat)
    (wallet : MpcWallet) (share stored : KeyShare) : Prop where
  row : s.findRow walletId = some wallet
  target : s.target walletId participantId shareIndex = some stored
  same : stored.plain = share.plain

section Takes

variable {share stored : KeyShare} {wallet : MpcWallet}

theorem Takes.knows (h : Takes s walletId participantId shareIndex wallet share stored) :
    s.Knows share :=
  ⟨stored, mem_of_target h.target, h.same⟩

/-- The copy is of a share of that wallet and that participant. -/
theorem Takes.owner (h : Takes s walletId participantId shareIndex wallet share stored) :
    share.walletId = wallet.id ∧ share.participantId = participantId := by
  rcases target_spec h.row h.target with ⟨hmine, howner⟩
  have hwallet := congrArg (fun share => share.walletId) h.same
  have hparticipant := congrArg (fun share => share.participantId) h.same
  exact ⟨hwallet.symm.trans hmine, hparticipant.symm.trans howner⟩

theorem Takes.active (h : Takes s walletId participantId shareIndex wallet share stored)
    (id : Nat) :
    (s.revoke share).active id =
      s.active id - if stored.walletId = id && stored.isActive then 1 else 0 := by
  have hid : stored.id = share.id := congrArg (fun share => share.id) h.same
  exact active_revoke (hid ▸ Table.findOne_of_mem (mem_of_target h.target)) id

/-- Only that wallet loses the share, and only when it was not revoked before. -/
theorem Takes.loses (h : Takes s walletId participantId shareIndex wallet share stored)
    {wallet' : MpcWallet} (hmem : wallet' ∈ s.wallets.rows)
    (hlose : (stored.walletId = wallet'.id && stored.isActive) = true) :
    wallet' = wallet ∧ s.isRevoked walletId participantId shareIndex = false := by
  rw [Bool.and_eq_true, decide_eq_true_eq] at hlose
  refine ⟨?_, ?_⟩
  · have hmine := (target_spec h.row h.target).1
    exact Table.eq_of_key hmem (findRow_spec h.row).1 (hlose.1.symm.trans hmine)
  · have hactive := of_decide_eq_true hlose.2
    unfold MpcDb.isRevoked
    rw [h.target]
    simp [hactive]

/-- The wallet has the share to spare, since this call counts among those that
    are about to take one. -/
theorem Takes.spare {rest : Service Unit}
    (h : Takes s walletId participantId shareIndex wallet share stored)
    (hsound : Sound sha256 ⟨s, before ++
      ⟨.revokeKeyShare walletId participantId shareIndex, made + 1, rest⟩ :: after⟩)
    (hrest : rest.unfinished = true)
    (hnot : s.isRevoked walletId participantId shareIndex = false) :
    (wallet.threshold : Int) + 1 ≤ s.active wallet.id := by
  have hone : 1 ≤ taking ⟨s, before ++
      ⟨.revokeKeyShare walletId participantId shareIndex, made + 1, rest⟩ :: after⟩ walletId := by
    rw [taking_split, if_pos (isTaking_revoke hrest hnot)]
    omega
  have hless : _ ≤ s.active wallet.id := hsound.spare walletId wallet h.row hone
  omega

/-- Wallets keep enough shares. -/
theorem Takes.enough (h : Takes s walletId participantId shareIndex wallet share stored)
    (hs : s.EnoughActive) (hspare : s.isRevoked walletId participantId shareIndex = false →
      (wallet.threshold : Int) + 1 ≤ s.active wallet.id) : (s.revoke share).EnoughActive := by
  rw [enoughActive_iff] at hs ⊢
  intro wallet' hmem hstatus
  rw [h.active]
  by_cases hlose : (stored.walletId = wallet'.id && stored.isActive) = true
  · rcases h.loses hmem hlose with ⟨rfl, hnot⟩
    have hless := hspare hnot
    rw [if_pos hlose]
    omega
  · rw [if_neg hlose, Int.sub_zero]
    exact hs wallet' hmem hstatus

/-- They keep enough to spare too: when the share was active, this call was one
    of those that were about to take one, and it is not any longer. -/
theorem Takes.spares {rest rest' : Service Unit}
    (h : Takes s walletId participantId shareIndex wallet share stored)
    (hsound : Sound sha256 ⟨s, before ++
      ⟨.revokeKeyShare walletId participantId shareIndex, made + 1, rest⟩ :: after⟩)
    (hrest : rest.unfinished = true) (hdone : rest'.unfinished = false)
    {walletId' : String} {wallet' : MpcWallet} (hrow : s.findRow walletId' = some wallet')
    (hpos : 0 < taking ⟨s.revoke share, before ++
      ⟨.revokeKeyShare walletId participantId shareIndex, made + 2, rest'⟩ :: after⟩ walletId') :
    (wallet'.threshold : Int) + taking ⟨s.revoke share, before ++
      ⟨.revokeKeyShare walletId participantId shareIndex, made + 2, rest'⟩ :: after⟩ walletId' ≤
        (s.revoke share).active wallet'.id := by
  have hall : ∀ thread, (s.revoke share).isTaking walletId' thread = true →
      s.isTaking walletId' thread = true := fun _ =>
    isTaking_of_isRevoked fun _ _ => isRevoked_revoke h.knows
  rw [h.active]
  -- Either one share less is active and one call less is taking, or neither.
  by_cases hlose : (stored.walletId = wallet'.id && stored.isActive) = true
  · rcases h.loses (findRow_spec hrow).1 hlose with ⟨rfl, hnot⟩
    obtain rfl : walletId' = walletId :=
      (findRow_spec hrow).2.symm.trans (findRow_spec h.row).2
    have hlt : taking ⟨s.revoke share, before ++
          ⟨.revokeKeyShare walletId' participantId shareIndex, made + 2, rest'⟩ :: after⟩
          walletId' <
        taking ⟨s, before ++
          ⟨.revokeKeyShare walletId' participantId shareIndex, made + 1, rest⟩ :: after⟩
          walletId' :=
      taking_lt hall (isTaking_revoke hrest hnot) (isTaking_finished hdone)
    have hless : _ ≤ s.active wallet'.id :=
      hsound.spare walletId' wallet' hrow (Nat.lt_of_le_of_lt (Nat.zero_le _) hlt)
    rw [if_pos hlose]
    omega
  · have hle : taking ⟨s.revoke share, before ++
          ⟨.revokeKeyShare walletId participantId shareIndex, made + 2, rest'⟩ :: after⟩
          walletId' ≤
        taking ⟨s, before ++
          ⟨.revokeKeyShare walletId participantId shareIndex, made + 1, rest⟩ :: after⟩
          walletId' :=
      taking_le hall fun htaking => by
        rw [isTaking_finished hdone] at htaking
        exact nomatch htaking
    have hless : _ ≤ s.active wallet'.id :=
      hsound.spare walletId' wallet' hrow (Nat.lt_of_lt_of_le hpos hle)
    rw [if_neg hlose]
    omega

/-- The wallet loses a share that it had to spare. -/
theorem sound_revoke {rest rest' : Service Unit}
    (htakes : Takes s walletId participantId shareIndex wallet share stored)
    (h : Sound sha256 ⟨s, before ++
      ⟨.revokeKeyShare walletId participantId shareIndex, made + 1, rest⟩ :: after⟩)
    (hsigns : ∀ thread ∈ before ++
        ⟨.revokeKeyShare walletId participantId shareIndex, made + 1, rest⟩ :: after,
      thread.midway = true → thread.call.signs walletId participantId = false)
    (hrest : rest.unfinished = true) (hdone : rest'.unfinished = false) :
    Sound sha256 ⟨s.revoke share, before ++
      ⟨.revokeKeyShare walletId participantId shareIndex, made + 2, rest'⟩ :: after⟩ := by
  refine ⟨htakes.enough h.enough (htakes.spare h hrest), fun walletId' wallet' hrow hpos => ?_,
    fun other hother => ?_⟩
  · exact htakes.spares h hrest hdone hrow hpos
  · -- No call on the way signs with a copy of the share.
    have hstable : ∀ thread ∈ before ++
          ⟨.revokeKeyShare walletId participantId shareIndex, made + 1, rest⟩ :: after,
        Local sha256 (s.revoke share) thread := fun thread hmem =>
      local_of_revoke htakes.knows htakes.row htakes.owner.1 htakes.owner.2 (hsigns thread hmem)
        (h.threads thread hmem)
    rcases List.mem_append.mp hother with hmem | hmem
    · exact hstable other (List.mem_append_left _ hmem)
    · rcases List.mem_cons.mp hmem with rfl | hmem
      · exact Or.inr ⟨Nat.succ_pos _, Or.inl hdone⟩
      · exact hstable other (List.mem_append_right _ (List.mem_cons_of_mem _ hmem))

end Takes

/-- A revocation that may make its access keeps the invariant. -/
theorem access_revoke {β : Type} {act : MpcDb → β × MpcDb} {next : β → Service Unit}
    {fail : Service Unit}
    (h : Sound sha256 ⟨s, before ++
      ⟨.revokeKeyShare walletId participantId shareIndex, made, .access act next fail⟩ :: after⟩)
    (hmay : Call.MayAccess (.revokeKeyShare walletId participantId shareIndex) made ⟨s, before ++
      ⟨.revokeKeyShare walletId participantId shareIndex, made, .access act next fail⟩ :: after⟩) :
    StaysRevoked s (act s).2 ∧ Sound sha256 ⟨(act s).2, before ++
      ⟨.revokeKeyShare walletId participantId shareIndex, made + 1, next (act s).1⟩ :: after⟩ := by
  have hlocal := h.threads ⟨.revokeKeyShare walletId participantId shareIndex, made,
    .access act next fail⟩ (List.mem_append_right _ List.mem_cons_self)
  rcases hlocal with ⟨hmade, hrest⟩ | ⟨hmade, hdone | ⟨wallet, hrow, hphase⟩⟩
  · -- It loads its wallet.
    rcases program_revoke sha256 walletId participantId shareIndex with
      ⟨next', fail', hprogram, hnone, hsome⟩
    cases hrest.trans hprogram
    change made = 0 at hmade
    subst hmade
    refine ⟨(sameButUse_refl s).staysRevoked, sound_load h (hmay.2 rfl) ?_⟩
    cases hrow : s.findRow walletId with
    | none =>
        have hfind : s.findWallet walletId = none := by
          unfold MpcDb.findWallet
          rw [hrow, Option.map_none]
        simp only [hfind]
        exact Or.inl hnone
    | some wallet =>
        have hfind : s.findWallet walletId = some (s.load wallet) := by
          unfold MpcDb.findWallet
          rw [hrow, Option.map_some]
        simp only [hfind]
        refine Or.inr ⟨s.load wallet, hrow, Or.inl ⟨hsome (s.load wallet), fun hnot => ?_⟩⟩
        have hleaves := hmay.2 rfl hnot (s.load wallet) hfind
        omega
  · exact nomatch hdone
  · rcases hphase with ⟨hrest, hspare⟩ | ⟨share, stored, hrest, hstatus, htarget, hsame, hspare⟩
    · -- It looks for its share.
      rcases findAndRevoke_eq participantId shareIndex wallet with ⟨next', fail', heq, hnone, hsome⟩
      cases hrest.trans heq
      have htarget : s.target walletId participantId shareIndex =
          s.keyShares.rows.find? fun share =>
          share.walletId = wallet.id && share.participantId = participantId &&
            share.shareIndex = shareIndex := by
        unfold MpcDb.target
        rw [hrow]
        rfl
      refine ⟨(sameButUse_refl s).staysRevoked, h.sameButUse (sameButUse_refl s)
        (Or.inr ⟨Nat.succ_pos made, ?_⟩) fun walletId' htaking => ?_⟩
      · simp only [← htarget]
        cases hfound : s.target walletId participantId shareIndex with
        | none => exact Or.inl hnone
        | some share =>
            rw [hsome]
            by_cases hstatus : share.status = .revoked
            · exact Or.inl (revokeShare_finished hstatus)
            · refine Or.inr ⟨wallet, hrow, Or.inr ⟨share, share, rfl, hstatus, hfound, rfl,
                hspare ?_⟩⟩
              unfold MpcDb.isRevoked
              rw [hfound]
              simp [hstatus]
      · rcases isTaking_revoke_iff.mp htaking with ⟨-, hmine⟩
        exact isTaking_revoke_iff.mpr ⟨⟨hmade, rfl⟩, hmine⟩
    · -- It saves its share.
      rcases revokeShare_eq hstatus hspare with ⟨next', fail', heq, hdone⟩
      cases hrest.trans heq
      rcases Nat.exists_eq_add_of_lt hmade with ⟨n, hn⟩
      obtain rfl : made = n + 1 := by
        change made = 0 + n + 1 at hn
        omega
      exact ⟨staysRevoked_revoke, sound_revoke ⟨hrow, htarget, hsame⟩ h hmay.1 rfl (hdone ())⟩

end Revoke

end Phases

/-! ### Schedules -/

/-- Starting a call changes nothing yet. -/
theorem sound_start {sha256 : Sha256} {pool : MpcPool} (h : Sound sha256 pool) (call : Call) :
    Sound sha256
      { pool with threads := pool.threads ++ [Thread.begin (program sha256) call] } := by
  -- A call that has only been started takes nothing.
  have htaking : ∀ walletId, taking
      { pool with threads := pool.threads ++ [Thread.begin (program sha256) call] } walletId =
        taking pool walletId := by
    intro walletId
    unfold taking
    rw [List.countP_append, List.countP_singleton]
    simp [MpcDb.isTaking, Thread.midway, Thread.begin]
  refine ⟨h.enough, fun walletId wallet hrow hpos => ?_, fun thread hmem => ?_⟩
  · rw [htaking] at hpos ⊢
    exact h.spare walletId wallet hrow hpos
  · rcases List.mem_append.mp hmem with hmem | hmem
    · exact h.threads thread hmem
    · rw [List.mem_singleton.mp hmem]
      exact Or.inl ⟨rfl, rfl⟩

/-- Schedules of allowed moves keep both promises. -/
theorem revocation_kept (sha256 : Sha256) (db : MpcDb) (hdb : db.EnoughActive)
    (moves : List (Move Call))
    (hallowed : Along (move (program sha256)) (fun m s _ _ => Allowed m s) moves ⟨db, []⟩) :
    Along (move (program sha256)) (fun _ s _ t => Kept s t) moves ⟨db, []⟩ := by
  refine along_pool (I := Sound sha256) (P := Allowed) (fun pool h => ?_) (fun pool call _ h => ?_)
    (fun pool before call made β act next fail after hmay h hthreads => ?_) ?_ hallowed
  · -- A move of no thread changes nothing.
    exact kept_of_sameButUse h.enough (sameButUse_refl pool.store)
  · -- A call that begins has taken nothing yet.
    exact ⟨kept_of_sameButUse h.enough (sameButUse_refl pool.store), sound_start h call⟩
  · -- An access is of a signing, or of a revocation that may take its share.
    rcases pool with ⟨s, threads⟩
    change threads = before ++ ⟨call, made, .access act next fail⟩ :: after at hthreads
    subst hthreads
    have haccess := hmay ⟨call, made, .access act next fail⟩ (getElem?_middle before after _) rfl
    cases call with
    | createMpcWallet random request => exact haccess.elim
    | signTransaction now request =>
        rcases access_sign h with ⟨hsame, hsound⟩
        exact ⟨kept_of_sameButUse h.enough hsame, hsound⟩
    | revokeKeyShare walletId participantId shareIndex =>
        rcases access_revoke h haccess with ⟨hstays, hsound⟩
        exact ⟨⟨hstays, fun _ => hsound.enough⟩, hsound⟩
  · exact ⟨hdb, fun _ _ _ hpos => absurd hpos (Nat.lt_irrefl 0),
      fun _ h => absurd h List.not_mem_nil⟩

/-! ### Two revocations, one after the other -/

/-- Alice's share is revoked, and two are left. -/
def revokeAlice : List (Move Call) :=
  [.start (.revokeKeyShare "mpc_1" "alice" 0), .access 0, .access 0, .access 0]

/-- Bob's share is stored as revoked, and one is left. -/
def revokeBob : List (Move Call) :=
  [.start (.revokeKeyShare "mpc_1" "bob" 1), .access 1, .access 1, .access 1]

/-- The status of Bob's share after some moves. -/
def bobAfter (moves : List (Move Call)) : Option KeyShareStatus :=
  ((after (move (program plainSha256)) moves ⟨treasuryDb, []⟩).store.keyShares.findOne 1).map
    KeyShare.status

/-- The wallet is saved with Bob's share as it was loaded. -/
theorem not_revocation_kept :
    ¬ Along (move (program plainSha256)) (fun _ s _ t => Kept s t)
      ((revokeAlice ++ revokeBob) ++ [.access 1]) ⟨treasuryDb, []⟩ := by
  intro h
  have hlast := (along_append.mp h).2.1
  have hrevoked : bobAfter (revokeAlice ++ revokeBob) = some .revoked := by decide +kernel
  -- The last access saves the wallet of the first revocation.
  have hactive : bobAfter ((revokeAlice ++ revokeBob) ++ [.access 1]) = some .active := by
    decide +kernel
  unfold bobAfter at hrevoked hactive
  rw [after_append, after_cons] at hactive
  rcases Option.map_eq_some_iff.mp hrevoked with ⟨share, hfind, hstatus⟩
  rcases hlast.revoked share (Table.mem_of_findOne hfind) hstatus with ⟨later, hlater, hstays⟩
  rw [Table.key_of_findOne hfind] at hlater
  have hboth := hactive.symm.trans (congrArg (Option.map KeyShare.status) hlater)
  rw [Option.map_some, hstays] at hboth
  exact absurd hboth (by decide)

/-- One share can go. -/
theorem revocation_kept_revokeAlice :
    Along (move (program plainSha256)) (fun _ s _ t => Kept s t) revokeAlice ⟨treasuryDb, []⟩ := by
  have hnone : ∀ made rest, ∀ thread ∈ [(⟨.revokeKeyShare "mpc_1" "alice" 0, made, rest⟩ :
      MpcThread)], thread.midway = true → thread.call.signs "mpc_1" "alice" = false := by
    intro made rest thread hmem _
    rw [List.mem_singleton.mp hmem]
    rfl
  refine revocation_kept plainSha256 treasuryDb (by decide +kernel) revokeAlice
    ⟨trivial, fun thread hthread _ => ?_, fun thread hthread _ => ?_, fun thread hthread _ => ?_,
      trivial⟩
  · -- The later accesses of the call are not the first one.
    obtain rfl := Option.some.inj hthread
    refine ⟨hnone _ _, fun _ _ wallet hfind => ?_⟩
    -- Two shares are needed and three are active, so one is to spare.
    have hcounts : (treasuryDb.findWallet "mpc_1").map (fun wallet =>
        (wallet.threshold, wallet.getActiveSharesCount)) = some (2, 3) := by decide +kernel
    have hfound := congrArg (Option.map fun wallet : LoadedMpcWallet =>
      (wallet.threshold, wallet.getActiveSharesCount)) hfind
    rcases Prod.mk.inj (Option.some.inj (hcounts.symm.trans hfound)) with ⟨hthreshold, hcount⟩
    have htaking : taking ⟨treasuryDb, [Thread.begin (program plainSha256)
        (.revokeKeyShare "mpc_1" "alice" 0)]⟩ "mpc_1" = 0 := rfl
    change wallet.threshold + taking ⟨treasuryDb, [Thread.begin (program plainSha256)
      (.revokeKeyShare "mpc_1" "alice" 0)]⟩ "mpc_1" + 1 ≤ wallet.getActiveSharesCount
    omega
  · obtain rfl := Option.some.inj hthread
    exact ⟨hnone _ _, fun hfirst => nomatch hfirst⟩
  · obtain rfl := Option.some.inj hthread
    exact ⟨hnone _ _, fun hfirst => nomatch hfirst⟩

end Mpc

end SvmCourse
