import Mathlib.Data.List.Dedup
import SvmCourse.Mpc.Wallets

/-!
# Threshold Signing

When the service signs, and for whom. It counts the entries of the request
that are well formed and come from a participant with an active share, and it
counts every entry, so one participant who is listed twice counts for two.

Enough different participants always get their signature. The other direction
holds for a request exactly when repetitions do not matter in it: when its
entries are too few in any case, or come from enough different participants.

## Main definitions

* `LoadedMpcWallet.counts`: An entry that the service counts.
* `EnoughParticipants`: As many different participants as the threshold.
* `Guarded`: What the threshold promises about one request.
* `CountedOnce`: Repetitions do not lift a request to the threshold.

## Theorems

* `signTransaction_answered`: What a request can end with.
* `enoughParticipants_iff`: Enough participants, as a count.
* `signTransaction_guarded_iff`: The promise is kept exactly when repetitions
  do not matter.
-/

namespace SvmCourse

namespace Mpc

open Core Core.Prog

/-! ### Entries that count -/

/-- There is a signature share, and it has the right form. -/
def ParticipantShare.wellFormed (participantShare : ParticipantShare) : Bool :=
  participantShare.signatureShare.any Mpc.wellFormed

/-- The participant owns a share that is active. -/
def LoadedMpcWallet.hasActiveShare (wallet : LoadedMpcWallet) (participantId : String) : Bool :=
  wallet.keyShares.any fun s => s.participantId = participantId && s.isActive

/-- The share counts for a signature. -/
def LoadedMpcWallet.counts (wallet : LoadedMpcWallet) (participantShare : ParticipantShare) :
    Bool :=
  wallet.hasActiveShare participantShare.participantId && participantShare.wellFormed

/-- The participants of the entries that count, repetitions included. -/
def LoadedMpcWallet.signers (wallet : LoadedMpcWallet) (request : SignTransactionRequest) :
    List String :=
  (request.participantShares.filter wallet.counts).map ParticipantShare.participantId

/-- The validation loop keeps an entry when it counts. -/
theorem validateParticipantShare_isSome (wallet : LoadedMpcWallet)
    (participantShare : ParticipantShare) :
    (validateParticipantShare wallet participantShare).isSome = wallet.counts participantShare := by
  unfold validateParticipantShare LoadedMpcWallet.counts LoadedMpcWallet.hasActiveShare
    ParticipantShare.wellFormed
  cases hfind : wallet.keyShares.find? fun s =>
      s.participantId = participantShare.participantId && s.isActive with
  | none =>
      have hnone : (wallet.keyShares.any fun s =>
          s.participantId = participantShare.participantId && s.isActive) = false :=
        List.any_eq_false.mpr (List.find?_eq_none.mp hfind)
      rw [hnone, Bool.false_and]
      rfl
  | some share =>
      have hany : (wallet.keyShares.any fun s =>
          s.participantId = participantShare.participantId && s.isActive) = true :=
        List.any_eq_true.mpr ⟨share, List.mem_of_find?_eq_some hfind, by
          simpa using List.find?_some hfind⟩
      rw [hany, Bool.true_and]
      cases participantShare.signatureShare with
      | none => rfl
      | some signatureShare =>
          -- The share of the wallet is there, so the form of the signature decides.
          by_cases hform : wellFormed signatureShare
          · simp [hform]
          · simp [hform]

theorem length_validateParticipantShares (wallet : LoadedMpcWallet)
    (request : SignTransactionRequest) :
    (validateParticipantShares wallet request.participantShares).length =
      (wallet.signers request).length := by
  unfold validateParticipantShares LoadedMpcWallet.signers
  rw [List.length_filterMap_eq_countP, List.length_map, List.countP_eq_length_filter]
  congr 1
  refine List.filter_congr fun participantShare _ => ?_
  rw [validateParticipantShare_isSome]

/-- The entries that count are some of the request's. -/
theorem length_signers_le (wallet : LoadedMpcWallet) (request : SignTransactionRequest) :
    (wallet.signers request).length ≤ request.participantShares.length := by
  rw [LoadedMpcWallet.signers, List.length_map]
  exact List.length_filter_le ..

/-! ### Enough participants -/

/-- At least as many different participants as the threshold asks for have an
    active share and a well-formed entry. -/
def EnoughParticipants (wallet : LoadedMpcWallet) (request : SignTransactionRequest) : Prop :=
  ∃ participants : List String, participants.Nodup ∧ wallet.threshold ≤ participants.length ∧
    ∀ participantId ∈ participants,
      (∃ share ∈ wallet.keyShares, share.participantId = participantId ∧ share.status = .active) ∧
      ∃ entry ∈ request.participantShares,
        entry.participantId = participantId ∧ entry.wellFormed = true

theorem mem_signers_iff {wallet : LoadedMpcWallet} {request : SignTransactionRequest}
    {participantId : String} :
    participantId ∈ wallet.signers request ↔
      (∃ share ∈ wallet.keyShares, share.participantId = participantId ∧ share.status = .active) ∧
      ∃ entry ∈ request.participantShares,
        entry.participantId = participantId ∧ entry.wellFormed = true := by
  unfold LoadedMpcWallet.signers LoadedMpcWallet.counts LoadedMpcWallet.hasActiveShare
    KeyShare.isActive
  simp only [List.mem_map, List.mem_filter, Bool.and_eq_true, List.any_eq_true,
    decide_eq_true_eq]
  constructor
  · rintro ⟨entry, ⟨hentry, ⟨share, hshare, hsame, hactive⟩, hform⟩, rfl⟩
    exact ⟨⟨share, hshare, hsame, hactive⟩, entry, hentry, rfl, hform⟩
  · rintro ⟨⟨share, hshare, hsame, hactive⟩, entry, hentry, rfl, hform⟩
    exact ⟨entry, ⟨hentry, ⟨share, hshare, hsame, hactive⟩, hform⟩, rfl⟩

theorem enoughParticipants_iff {wallet : LoadedMpcWallet} {request : SignTransactionRequest} :
    EnoughParticipants wallet request ↔
      wallet.threshold ≤ (wallet.signers request).dedup.length := by
  constructor
  · rintro ⟨participants, hnodup, hcount, hall⟩
    refine Nat.le_trans hcount (hnodup.length_le_of_subset fun participantId hmem => ?_)
    exact List.mem_dedup.mpr (mem_signers_iff.mpr (hall participantId hmem))
  · intro hcount
    refine ⟨_, List.nodup_dedup _, hcount, fun participantId hmem => ?_⟩
    exact mem_signers_iff.mp (List.mem_dedup.mp hmem)

/-- Enough participants are enough entries. -/
theorem EnoughParticipants.length_le {wallet : LoadedMpcWallet} {request : SignTransactionRequest}
    (h : EnoughParticipants wallet request) :
    wallet.threshold ≤ (wallet.signers request).length :=
  Nat.le_trans (enoughParticipants_iff.mp h) (List.dedup_sublist _).length_le

/-! ### Signing -/

/-- The two rejections for too few shares. -/
def ServiceError.IsInsufficient (e : ServiceError) : Prop :=
  ∃ got need : Nat, e = .BadRequestException s!"Insufficient shares: got {got}, need {need}" ∨
    e = .BadRequestException
      s!"MPC signing failed: Insufficient valid shares: got {got}, need {need}"

/-- What the threshold promises about one request, whatever the store refuses. -/
structure Guarded (sha256 : Sha256) (now : Nat) (request : SignTransactionRequest) (db : MpcDb) :
    Prop where
  signed : ∀ o result, ((signTransaction sha256 now request).run o db).1 = .ok result →
    ∃ wallet, db.findWallet request.walletId = some wallet ∧ wallet.status = .active ∧
      EnoughParticipants wallet request
  enough : ∀ wallet, db.findWallet request.walletId = some wallet → wallet.status = .active →
    EnoughParticipants wallet request →
    ∀ o e, ((signTransaction sha256 now request).run o db).1 = .error e → ¬ e.IsInsufficient

/-- Repetitions do not lift the request to the threshold: it has too few entries
    that count, or enough without them. -/
def CountedOnce (wallet : LoadedMpcWallet) (request : SignTransactionRequest) : Prop :=
  wallet.threshold ≤ (wallet.signers request).length →
    wallet.threshold ≤ (wallet.signers request).dedup.length

section Sign

variable {sha256 : Sha256} {now : Nat} {request : SignTransactionRequest} {db : MpcDb}

/-- A refused save is no rejection for too few shares. -/
theorem not_isInsufficient_refused :
    ¬ (ServiceError.BadRequestException
      s!"MPC signing failed: {ServiceError.StoreError.message}").IsInsufficient := by
  rintro ⟨got, need, h | h⟩
  · have hfirst := congrArg (fun s => s.toList[0]?) (ServiceError.BadRequestException.inj h)
    simp [toString] at hfirst
  · have hword := congrArg (fun s => s.toList[20]?) (ServiceError.BadRequestException.inj h)
    simp [toString, ServiceError.message] at hword

/-- What the service has counted when it answers. -/
def Answered (db : MpcDb) (request : SignTransactionRequest)
    (r : Except ServiceError SignatureReconstructionResult) : Prop :=
  match r with
  | .ok _ => ∃ wallet, db.findWallet request.walletId = some wallet ∧ wallet.isActive = true ∧
      wallet.threshold ≤ (wallet.signers request).length
  | .error e => ∀ wallet, db.findWallet request.walletId = some wallet → wallet.isActive = true →
      wallet.threshold ≤ (wallet.signers request).length → ¬ e.IsInsufficient

/-- Signing counts the entries that count. -/
theorem signWithShares_answered {C : Prop} {t : MpcDb} (wallet : LoadedMpcWallet) :
    (signWithShares sha256 now request wallet).Ensures C t fun r _ => match r with
      | .ok _ => wallet.threshold ≤ (wallet.signers request).length
      | .error e => wallet.threshold ≤ (wallet.signers request).length → e = .StoreError := by
  have hlength := length_validateParticipantShares wallet request
  refine ensures_bind (ensures_require (fun hok => ?_) fun herr henough => ?_)
  · have henough := of_decide_eq_true hok
    rw [hlength] at henough
    refine ensures_bind (ensures_perform ?_ fun _ _ => rfl)
    exact henough
  · have hfew := of_decide_eq_false herr
    rw [hlength] at hfew
    exact absurd henough hfew

theorem signTransaction_answered {C : Prop} :
    (signTransaction sha256 now request).Ensures C db fun r _ => Answered db request r := by
  refine ensures_bind (ensures_bind (ensures_perform ?_ fun _ wallet _ _ _ => ?_))
  · refine ensures_demand (fun wallet hfind => ?_) fun hnone wallet hfind _ _ => ?_
    · refine ensures_bind (ensures_require (fun hactive => ?_) fun hnot other hother hactive => ?_)
      · refine ensures_bind (ensures_require (fun hlong => ?_)
          fun hshort other hother _ henough => ?_)
        · -- The length of the request passes, so the valid shares decide.
          refine ensures_rescue (ensures_mono (signWithShares_answered wallet) ?_)
          intro r t hr
          cases r with
          | ok result => exact ⟨wallet, hfind, hactive, hr⟩
          | error e =>
              intro other hother _ henough
              obtain rfl := Option.some.inj (hfind.symm.trans hother)
              rw [hr henough]
              exact not_isInsufficient_refused
        · -- The request is too short to hold enough signers.
          obtain rfl := Option.some.inj (hfind.symm.trans hother)
          exact absurd (Nat.le_trans henough (length_signers_le wallet request))
            (of_decide_eq_false hshort)
      · obtain rfl := Option.some.inj (hfind.symm.trans hother)
        exact nomatch hnot.symm.trans hactive
    · exact nomatch hnone.symm.trans hfind
  · rintro ⟨got, need, h | h⟩ <;> exact nomatch h

/-- Enough entries that count are enough for a signature. -/
theorem signTransaction_ok (sha256 : Sha256) (now : Nat) {wallet : LoadedMpcWallet}
    (hfind : db.findWallet request.walletId = some wallet) (hactive : wallet.isActive = true)
    (henough : wallet.threshold ≤ (wallet.signers request).length) :
    ∃ result, ((signTransaction sha256 now request).eval db).1 = .ok result := by
  have hlength := length_validateParticipantShares wallet request
  have hlong := Nat.le_trans henough (length_signers_le wallet request)
  -- The two checks count the same signers.
  have hvalid : wallet.threshold ≤
      (validateParticipantShares wallet request.participantShares).length := by
    rw [hlength]
    exact henough
  have hload : (getWalletByWalletId request.walletId).eval db = (.ok wallet, db) := by
    unfold getWalletByWalletId
    rw [bind_eq, eval_bind_ok rfl]
    simp only [hfind, eval_demand_some]
  unfold signTransaction
  rw [bind_eq, eval_bind_ok hload]
  unfold signLoaded
  rw [hactive, bind_eq, eval_bind_ok rfl, decide_eq_true hlong, bind_eq,
    eval_bind_ok rfl, eval_rescue]
  unfold signWithShares
  simp only [decide_eq_true hvalid]
  exact ⟨_, rfl⟩

/-- A request is guarded by the threshold exactly when repetitions do not lift
    it there. -/
theorem signTransaction_guarded_iff (sha256 : Sha256) (now : Nat)
    (request : SignTransactionRequest) (db : MpcDb) :
    Guarded sha256 now request db ↔
      ∀ wallet, db.findWallet request.walletId = some wallet → wallet.status = .active →
        CountedOnce wallet request := by
  have hanswered : ∀ o, Answered db request ((signTransaction sha256 now request).run o db).1 :=
    (ensures_true_iff ..).mp signTransaction_answered
  -- A guarded request that counts enough entries is signed, so its participants are
  -- enough.
  refine ⟨fun hguarded wallet hfind hactive henough => ?_, fun honce =>
    ⟨fun o result hok => ?_, fun wallet hfind hactive henough o e herr => ?_⟩⟩
  · rcases signTransaction_ok sha256 now hfind (decide_eq_true hactive) henough with ⟨result, heval⟩
    rcases hguarded.signed calm result (by rw [run_calm]; exact heval) with ⟨other, hother, -, hall⟩
    obtain rfl := Option.some.inj (hfind.symm.trans hother)
    exact enoughParticipants_iff.mp hall
  · have hcount := hanswered o
    rw [hok] at hcount
    rcases hcount with ⟨wallet, hfind, hactive, henough⟩
    have hstatus := of_decide_eq_true hactive
    exact ⟨wallet, hfind, hstatus, enoughParticipants_iff.mpr (honce wallet hfind hstatus henough)⟩
  · have hcount := hanswered o
    rw [herr] at hcount
    exact hcount wallet hfind (decide_eq_true hactive) henough.length_le

end Sign

/-! ### One participant, listed twice -/

/-- Alice signs for two. -/
def repeatedRequest : SignTransactionRequest where
  walletId := "mpc_1"
  transactionData := "transaction"
  participantShares := [⟨"alice", "signature-1"⟩, ⟨"alice", "signature-1"⟩]

theorem not_signTransaction_guarded : ¬ Guarded plainSha256 0 repeatedRequest treasuryDb := by
  intro h
  have hfound : (treasuryDb.findWallet repeatedRequest.walletId).map (fun wallet =>
        (wallet.isActive, wallet.threshold, (wallet.signers repeatedRequest).length,
          (wallet.signers repeatedRequest).dedup.length)) =
      some (true, 2, 2, 1) := by decide +kernel
  rcases Option.map_eq_some_iff.mp hfound with ⟨wallet, hfind, hcounts⟩
  simp only [Prod.mk.injEq] at hcounts
  rcases signTransaction_ok plainSha256 0 hfind hcounts.1 (by omega) with ⟨result, heval⟩
  rcases h.signed calm result (by rw [run_calm]; exact heval) with ⟨other, hother, -, hall⟩
  obtain rfl := Option.some.inj (hfind.symm.trans hother)
  -- One participant who is listed twice is counted as two.
  have hdistinct := enoughParticipants_iff.mp hall
  omega

end Mpc

end SvmCourse
