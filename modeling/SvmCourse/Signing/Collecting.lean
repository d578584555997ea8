import SvmCourse.Signing.Safety

/-!
# Collected Signatures

What a multi-signature transaction carries when it becomes ready. Every signer
signs the same web3 transaction, and signing it drops the signatures that were
there, so only the last signer's is left. What is noted down beside it is the
signature in the fee payer's slot, which is empty unless the fee payer is the
one who signs.

So the transaction carries everyone's signature when there is only one signer
and that signer pays, and in no other case.

## Main definitions

* `MultiSigTransaction.FullySigned`: The collected signatures are valid and are
  in the transaction.
* `SignsFully`: What is promised of a transaction that becomes ready.
* `Call.SignsAlone`: The last signature is the only one, and the fee payer's.

## Theorems

* `compile_signed`: Signing leaves the message as it is.
* `fullySigned_iff`: The last signer is the only one and pays.
* `signsFully_iff`: The same for calls.
* `multiSig_fullySigned_iff`: The same for runs.
-/

namespace SvmCourse

namespace Signing

open Core Core.Machine

/-! ### Messages and slots -/

namespace SolanaTransaction

variable {web3 : Web3} {transaction : SolanaTransaction} {message : Message}
  {signer key : PublicKey}

/-- What a transaction that compiles has, and what its message is. -/
theorem compile_eq_ok (h : transaction.compile = .ok message) :
    ∃ recentBlockhash feePayer, transaction.recentBlockhash = some recentBlockhash ∧
      transaction.payer = some feePayer ∧
      (∀ slot ∈ transaction.signatures, slot.1 ∈ transaction.keys feePayer) ∧
      message =
        { recentBlockhash := recentBlockhash
          accounts := (transaction.keys feePayer).map fun key =>
            (key, transaction.mustSign feePayer key)
          instructions := transaction.instructions } := by
  -- The three checks of the library, in its order.
  unfold compile at h
  cases hhash : transaction.recentBlockhash with
  | none =>
      rw [hhash] at h
      exact nomatch h
  | some recentBlockhash =>
  cases hpayer : transaction.payer with
  | none =>
      rw [hhash, hpayer] at h
      exact nomatch h
  | some feePayer =>
  simp only [hhash, hpayer] at h
  cases hunknown : transaction.signatures.find? fun slot =>
      !(transaction.keys feePayer).contains slot.1 with
  | some slot =>
      rw [hunknown] at h
      exact nomatch h
  | none =>
      rw [hunknown] at h
      refine ⟨recentBlockhash, feePayer, rfl, rfl, fun slot hslot => ?_, (Except.ok.inj h).symm⟩
      have hknown := List.find?_eq_none.mp hunknown slot hslot
      simp only [Bool.not_eq_true', Bool.not_eq_false] at hknown
      exact List.contains_iff_mem.mp hknown

theorem compile_ok (transaction : SolanaTransaction) {recentBlockhash feePayer : String}
    (hhash : transaction.recentBlockhash = some recentBlockhash)
    (hpayer : transaction.payer = some feePayer)
    (hslots : ∀ slot ∈ transaction.signatures, slot.1 ∈ transaction.keys feePayer) :
    transaction.compile = .ok
      { recentBlockhash := recentBlockhash
        accounts := (transaction.keys feePayer).map fun key =>
          (key, transaction.mustSign feePayer key)
        instructions := transaction.instructions } := by
  have hknown : (transaction.signatures.find? fun slot =>
      !(transaction.keys feePayer).contains slot.1) = none := by
    refine List.find?_eq_none.mpr fun slot hslot => ?_
    simp only [List.contains_iff_mem.mpr (hslots slot hslot), Bool.not_true, Bool.false_eq_true,
      not_false_iff]
  unfold compile
  simp only [hhash, hpayer, hknown]

/-- The one who signs a transaction pays for it, unless someone else does. -/
theorem payer_cleared (transaction : SolanaTransaction) (signer : PublicKey) :
    (transaction.cleared signer).payer = some (transaction.feePayer.getD signer) := by
  unfold payer cleared
  cases transaction.feePayer <;> rfl

/-- The fee payer is the first who has to sign. -/
theorem signers_head (h : (transaction.cleared signer).compile = .ok message) :
    message.signers.head? = some (transaction.feePayer.getD signer) := by
  rcases compile_eq_ok h with ⟨recentBlockhash, feePayer, -, hpayer, -, rfl⟩
  rw [payer_cleared] at hpayer
  obtain rfl := Option.some.inj hpayer
  unfold Message.signers keys mustSign
  rw [List.eraseDups_cons, List.map_cons, List.filter_cons_of_pos (by simp), List.map_cons,
    List.head?_cons]

/-- Whoever signs has to sign. -/
theorem signer_mem_signers (h : (transaction.cleared signer).compile = .ok message) :
    signer ∈ message.signers := by
  rcases compile_eq_ok h with ⟨recentBlockhash, feePayer, -, -, hslots, rfl⟩
  refine List.mem_map.mpr ⟨(signer, true), List.mem_filter.mpr ⟨?_, rfl⟩, rfl⟩
  refine List.mem_map.mpr ⟨signer, hslots (signer, none) (List.mem_singleton.mpr rfl), ?_⟩
  unfold mustSign cleared
  simp

/-- Only the one who signs has a signature. -/
theorem mem_slots {value : String} (h : (key, some value) ∈ slots web3 message signer) :
    key = signer := by
  rcases List.mem_map.mp h with ⟨other, -, hslot⟩
  rcases Prod.mk.inj hslot with ⟨rfl, hvalue⟩
  by_contra hne
  rw [if_neg hne] at hvalue
  exact nomatch hvalue

theorem signer_mem_slots (h : signer ∈ message.signers) :
    (signer, some (web3.signature signer message)) ∈ slots web3 message signer :=
  List.mem_map.mpr ⟨signer, h, by rw [if_pos rfl]⟩

/-- The first slot is the fee payer's. It has a signature when the fee payer is
    the one who signs. -/
theorem signature_signed (h : (transaction.cleared signer).compile = .ok message) :
    (transaction.signed web3 message signer).signature =
      if transaction.feePayer.getD signer = signer then some (web3.signature signer message)
      else none := by
  have hhead := signers_head h
  unfold signature signed slots
  rw [List.head?_map, hhead]
  by_cases hpays : transaction.feePayer.getD signer = signer
  · simp [hpays]
  · simp [hpays]

theorem payer_signed (h : (transaction.cleared signer).compile = .ok message) :
    (transaction.signed web3 message signer).payer = some (transaction.feePayer.getD signer) := by
  have hhead := signers_head h
  unfold payer signed slots
  rw [List.head?_map, hhead]
  cases transaction.feePayer <;> rfl

theorem mem_signers (key : PublicKey) (h : (transaction.cleared signer).compile = .ok message) :
    key ∈ message.signers ↔ key ∈ transaction.keys (transaction.feePayer.getD signer) ∧
      (transaction.cleared signer).mustSign (transaction.feePayer.getD signer) key = true := by
  rcases compile_eq_ok h with ⟨recentBlockhash, feePayer, -, hpayer, -, rfl⟩
  rw [payer_cleared] at hpayer
  obtain rfl := Option.some.inj hpayer
  unfold Message.signers
  rw [List.mem_map]
  -- The accounts of the message are the keys, each with whether it must sign.
  refine ⟨fun hmem => ?_, fun hmem => ?_⟩
  · rcases hmem with ⟨account, hmem, rfl⟩
    rcases List.mem_filter.mp hmem with ⟨haccount, hmust⟩
    rcases List.mem_map.mp haccount with ⟨other, hother, rfl⟩
    exact ⟨hother, hmust⟩
  · refine ⟨(key, true), List.mem_filter.mpr ⟨?_, rfl⟩, rfl⟩
    exact List.mem_map.mpr ⟨key, hmem.1, by rw [hmem.2]⟩

/-- Nobody else has to sign because there are more slots. -/
theorem mustSign_signed (h : (transaction.cleared signer).compile = .ok message)
    (hkey : key ∈ transaction.keys (transaction.feePayer.getD signer)) :
    (transaction.signed web3 message signer).mustSign (transaction.feePayer.getD signer) key =
      (transaction.cleared signer).mustSign (transaction.feePayer.getD signer) key := by
  have hslots : (transaction.signed web3 message signer).signatures.map Prod.fst =
      message.signers := by
    unfold signed slots
    rw [List.map_map]
    exact List.map_id _
  have hmem := mem_signers key h
  unfold mustSign at hmem ⊢
  rw [hslots]
  -- There is a slot for each signer of the message, and those had to sign before.
  by_cases hmust : key ∈ message.signers
  · rw [List.contains_iff_mem.mpr hmust, (hmem.mp hmust).2, Bool.or_true]
  · have hnot := mt (fun hcleared => hmem.mpr ⟨hkey, hcleared⟩) hmust
    rw [Bool.not_eq_true] at hnot
    have hcontains : message.signers.contains key = false := by
      simpa using hmust
    rw [hcontains, hnot, Bool.or_false]
    exact (Bool.or_eq_false_iff.mp hnot).1

/-- Signing leaves the message as it is. -/
theorem compile_signed (h : (transaction.cleared signer).compile = .ok message) :
    (transaction.signed web3 message signer).compile = .ok message := by
  rcases compile_eq_ok h with ⟨recentBlockhash, feePayer, hhash, hpayer, -, hmessage⟩
  rw [payer_cleared] at hpayer
  obtain rfl := Option.some.inj hpayer
  -- The new slots are for the signers of the message.
  have hslots : ∀ slot ∈ (transaction.signed web3 message signer).signatures,
      slot.1 ∈ transaction.keys (transaction.feePayer.getD signer) := by
    intro slot hslot
    rcases List.mem_map.mp hslot with ⟨key, hkey, rfl⟩
    exact ((mem_signers key h).mp hkey).1
  -- And the accounts have to sign as before.
  have haccounts : (transaction.keys (transaction.feePayer.getD signer)).map (fun key =>
        (key, (transaction.signed web3 message signer).mustSign
          (transaction.feePayer.getD signer) key)) =
      (transaction.keys (transaction.feePayer.getD signer)).map fun key =>
        (key, (transaction.cleared signer).mustSign (transaction.feePayer.getD signer) key) :=
    List.map_congr_left fun key hkey => by rw [mustSign_signed h hkey]
  have hcompile := compile_ok (transaction.signed web3 message signer) hhash (payer_signed h) hslots
  have hkeys : (transaction.signed web3 message signer).keys (transaction.feePayer.getD signer) =
      transaction.keys (transaction.feePayer.getD signer) := rfl
  rw [hkeys, haccounts] at hcompile
  rw [hcompile, hmessage]
  rfl

end SolanaTransaction

/-! ### Transactions that become ready -/

/-- The transaction has a valid signature of everyone who is noted down, and
    that is the signature that is noted down. -/
def MultiSigTransaction.FullySigned (web3 : Web3) (multiSigTx : MultiSigTransaction) : Prop :=
  ∃ message, multiSigTx.transaction.compile = .ok message ∧
    ∀ sig ∈ multiSigTx.collectedSignatures,
      (sig.signer, some (web3.signature sig.signer message)) ∈ multiSigTx.transaction.signatures ∧
        sig.signature = web3.signature sig.signer message ∧ sig.signature ≠ ""

/-- What becomes ready from `s` to `t` is fully signed. -/
def SignsFully (web3 : Web3) (s t : State) : Prop :=
  ∀ before after, s.multiSigTransactions.findOne after.id = some before →
    before.status ≠ .ready → t.multiSigTransactions.findOne after.id = some after →
    after.status = .ready → after.FullySigned web3

/-- The transaction is one that a single signer, who also pays for it, makes
    ready. -/
def MultiSigTransaction.SignedAlone (multiSigTx : MultiSigTransaction) (signer : PublicKey) :
    Prop :=
  multiSigTx.requiredSignatures ≤ 1 ∧ multiSigTx.transaction.feePayer.getD signer = signer

/-- A signature that makes a transaction ready is the only one, and the fee
    payer's. -/
def Call.SignsAlone (web3 : Web3) (call : Call) (s : State) : Prop :=
  match call with
  | .sign txId signerPrivateKey => ∀ multiSigTx signer message,
      checkSigner web3 txId signerPrivateKey s = .ok (multiSigTx, signer) →
      (multiSigTx.transaction.cleared signer).compile = .ok message →
      multiSigTx.requiredSignatures ≤ (multiSigTx.collectedSignatures.length + 1 : ℚ) →
      multiSigTx.SignedAlone signer
  | _ => True

section Steps

variable {web3 : Web3} {s : State}

open SolanaTransaction

theorem collected_ready_iff {multiSigTx : MultiSigTransaction} (signer : PublicKey)
    (transaction : SolanaTransaction) (hpending : multiSigTx.status = .pending) :
    (multiSigTx.collected signer transaction).status = .ready ↔
      multiSigTx.requiredSignatures ≤ (multiSigTx.collectedSignatures.length + 1 : ℚ) := by
  unfold MultiSigTransaction.collected
  simp only [List.length_append, List.length_singleton, Nat.cast_add, Nat.cast_one]
  by_cases henough : multiSigTx.requiredSignatures ≤ (multiSigTx.collectedSignatures.length + 1 : ℚ)
  · simp [henough]
  · simp [henough, hpending]

/-- A transaction with enough signatures carries them all exactly when there is
    one, and the fee payer made it. -/
theorem fullySigned_iff (hsignature : ∀ key message, web3.signature key message ≠ "")
    {txId : String} {multiSigTx : MultiSigTransaction} {account : MultiSigAccount}
    {signer : PublicKey} {message : Message} (hadmitted : Admitted s txId multiSigTx account signer)
    (hcollected : Collected account multiSigTx)
    (hcompile : (multiSigTx.transaction.cleared signer).compile = .ok message)
    (henough : multiSigTx.requiredSignatures ≤ (multiSigTx.collectedSignatures.length + 1 : ℚ)) :
    (multiSigTx.collected signer (multiSigTx.transaction.signed web3 message signer)).FullySigned
        web3 ↔ multiSigTx.SignedAlone signer := by
  have hsame : (multiSigTx.transaction.signed web3 message signer).compile = .ok message :=
    compile_signed hcompile
  have hsign : (multiSigTx.transaction.signed web3 message signer).signature = _ :=
    signature_signed hcompile
  refine ⟨fun hfull => ?_, fun halone => ?_⟩
  · rcases hfull with ⟨other, -, hall⟩
    -- A signature that was there before has no slot any more.
    have hempty : multiSigTx.collectedSignatures = [] := by
      refine List.eq_nil_iff_forall_not_mem.mpr fun sig hsig => hadmitted.fresh ?_
      have hslot := (hall sig (List.mem_append_left _ hsig)).1
      rw [← mem_slots hslot]
      exact List.mem_map.mpr ⟨sig, hsig, rfl⟩
    have hlast := (hall ⟨signer, _⟩ (List.mem_append_right _ (List.mem_singleton.mpr rfl))).2.2
    refine ⟨?_, ?_⟩
    · rw [hempty] at henough
      simpa using henough
    · by_contra hpays
      rw [hsign, if_neg hpays] at hlast
      exact hlast rfl
  · rcases halone with ⟨hone, hpays⟩
    -- Before the last signature there were too few, so there were none.
    have hempty : multiSigTx.collectedSignatures = [] := by
      have hshort := lt_of_lt_of_le (hcollected.short hadmitted.pending) hone
      exact List.length_eq_zero_iff.mp (Nat.lt_one_iff.mp (by exact_mod_cast hshort))
    refine ⟨message, hsame, fun sig hsig => ?_⟩
    simp only [MultiSigTransaction.collected, hempty, List.nil_append, List.mem_singleton] at hsig
    rw [hsign, if_pos hpays] at hsig
    subst hsig
    exact ⟨signer_mem_slots (signer_mem_signers hcompile), rfl, hsignature signer message⟩

/-- Storing a transaction makes no other one ready. -/
theorem signsFully_of_withTransaction {multiSigTx : MultiSigTransaction}
    (hfull : multiSigTx.status = .ready → multiSigTx.FullySigned web3) :
    SignsFully web3 s (s.withTransaction multiSigTx) := by
  intro before after hbefore hnot hafter hnow
  by_cases hsame : after.id = multiSigTx.id
  · unfold State.withTransaction at hafter
    rw [hsame, Table.findOne_save_self, Option.some.injEq] at hafter
    subst hafter
    exact hfull hnow
  · have hold := (Table.findOne_save_of_ne hsame).symm.trans hafter
    rw [hbefore, Option.some.injEq] at hold
    subst hold
    exact absurd hnow hnot

theorem signsFully_of_same {t : State} (h : t.multiSigTransactions = s.multiSigTransactions) :
    SignsFully web3 s t := by
  intro before after hbefore hnot hafter hnow
  rw [h, hbefore, Option.some.injEq] at hafter
  subst hafter
  exact absurd hnow hnot

theorem signsFully_failTransaction (txId : String) :
    SignsFully web3 s (s.failTransaction txId) := by
  unfold State.failTransaction
  cases s.multiSigTransactions.findOne txId with
  | none => exact signsFully_of_same rfl
  | some multiSigTx => exact signsFully_of_withTransaction fun h => nomatch h

/-- A call keeps the promise exactly when the signature that makes a transaction
    ready is the only one and the fee payer's. -/
theorem signsFully_iff (hsignature : ∀ key message, web3.signature key message ≠ "")
    (call : Call) (hs : s.Sound) :
    SignsFully web3 s (step web3 s call).2 ↔ call.SignsAlone web3 s := by
  cases call with
  | createAccount config derived =>
      -- No other call makes a transaction ready, so these keep the promise anyway.
      refine ⟨fun _ => trivial, fun _ => ?_⟩
      simp only [step, answered, createMultiSigAccount]
      cases checkConfig config with
      | error e => exact signsFully_of_same rfl
      | ok _ => cases derived <;> exact signsFully_of_same rfl
  | createTransaction multiSigAddress transaction txId =>
      refine ⟨fun _ => trivial, fun _ => ?_⟩
      simp only [step, answered, createMultiSigTransaction]
      cases demand (s.multiSigAccounts.findOne multiSigAddress)
        "Multi-signature account not found" with
      | error e => exact signsFully_of_same rfl
      | ok account => exact signsFully_of_withTransaction fun h => by cases h
  | execute txId answer =>
      refine ⟨fun _ => trivial, fun _ => ?_⟩
      simp only [step, answered, executeMultiSigTransaction]
      cases checkReady txId s with
      | error e => exact signsFully_failTransaction txId
      | ok multiSigTx =>
      cases answer with
      | error e => exact signsFully_failTransaction txId
      | ok signature => exact signsFully_of_withTransaction fun h => by cases h
  | sign txId signerPrivateKey =>
      simp only [step, answered, signMultiSigTransaction, Call.SignsAlone]
      cases hcheck : checkSigner web3 txId signerPrivateKey s with
      | error e => exact ⟨fun _ _ _ _ h => (by cases h), fun _ => signsFully_of_same rfl⟩
      | ok found =>
      rcases found with ⟨multiSigTx, signer⟩
      rcases checkSigner_eq_ok hcheck with ⟨account, hadmitted⟩
      rcases hs.transactions multiSigTx (Table.mem_of_findOne hadmitted.find) with
        ⟨other, hfind, hcollected⟩
      obtain rfl : other = account := Option.some.inj (hfind.symm.trans hadmitted.findAccount)
      -- A transaction that does not compile gets no signature.
      cases hcompile : (multiSigTx.transaction.cleared signer).compile with
      | error e =>
          simp only [SolanaTransaction.sign, hcompile]
          refine ⟨fun _ found key message h hmessage => ?_, fun _ =>
            signsFully_of_withTransaction fun h => ?_⟩
          · rcases Prod.mk.inj (Except.ok.inj h) with ⟨rfl, rfl⟩
            cases hcompile.symm.trans hmessage
          · cases hadmitted.pending.symm.trans h
      | ok message =>
          simp only [SolanaTransaction.sign, hcompile]
          -- Otherwise it is ready when enough signers were counted.
          have hready := collected_ready_iff signer
            (multiSigTx.transaction.signed web3 message signer) hadmitted.pending
          refine ⟨fun hfully found key other h _ henough => ?_, fun halone =>
            signsFully_of_withTransaction fun h => ?_⟩
          · rcases Prod.mk.inj (Except.ok.inj h) with ⟨rfl, rfl⟩
            have hkey : multiSigTx.id = txId := Table.key_of_findOne hadmitted.find
            refine (fullySigned_iff hsignature hadmitted hcollected hcompile henough).mp ?_
            refine hfully multiSigTx _ (hkey ▸ hadmitted.find) ?_ (Table.findOne_save_self _ _)
              (hready.mpr henough)
            rw [hadmitted.pending]
            exact fun h => by cases h
          · have henough := hready.mp h
            exact (fullySigned_iff hsignature hadmitted hcollected hcompile henough).mpr
              (halone multiSigTx signer message rfl hcompile henough)

end Steps

/-- In every run, what becomes ready is fully signed exactly when every
    signature that makes a transaction ready is the only one, and the fee
    payer's. -/
theorem multiSig_fullySigned_iff (web3 : Web3)
    (hsignature : ∀ key message, web3.signature key message ≠ "") (calls : List Call)
    (hfresh : Along (step web3) (fun call s _ _ => call.Fresh s) calls State.empty) :
    Along (step web3) (fun _ s _ t => SignsFully web3 s t) calls State.empty ↔
      Along (step web3) (fun call s _ _ => call.SignsAlone web3 s) calls State.empty := by
  refine along_congr (I := State.Sound) (fun call s _ hs => ?_) (fun call s hnew hs => ?_)
    sound_empty hfresh
  · exact signsFully_iff hsignature call hs
  · exact step_sound call hnew hs

/-! ### Two signers -/

/-- Two signers are needed, and the first of them pays. -/
def twoSigners : List Call :=
  [.createAccount ⟨2, ["alice", "bob"]⟩ (.ok "account"),
    .createTransaction "account"
      { feePayer := "alice", recentBlockhash := "hash", accounts := [("bob", true)] } "ms-1",
    .sign "ms-1" "alice"]

/-- The status of the transaction after some calls, who has signed, and the
    slots with whether they are filled. -/
def slotsAfter (calls : List Call) :
    Option (MultiSigStatus × List PublicKey × List (PublicKey × Bool)) :=
  ((after (step plainWeb3) calls State.empty).multiSigTransactions.findOne "ms-1").map
    fun multiSigTx =>
      (multiSigTx.status, multiSigTx.collectedSignatures.map CollectedSignature.signer,
        multiSigTx.transaction.signatures.map fun slot => (slot.1, slot.2.isSome))

/-- When the second signer signs, the first signature is gone. -/
theorem not_multiSig_fullySigned :
    ¬ Along (step plainWeb3) (fun _ s _ t => SignsFully plainWeb3 s t)
      (twoSigners ++ [.sign "ms-1" "bob"]) State.empty := by
  intro h
  have hlast := (along_append.mp h).2.1
  have hpending : slotsAfter twoSigners =
      some (.pending, ["alice"], [("alice", true), ("bob", false)]) := by decide +kernel
  -- Both are counted, but only the slot of the second is filled.
  have hready : slotsAfter (twoSigners ++ [.sign "ms-1" "bob"]) =
      some (.ready, ["alice", "bob"], [("alice", false), ("bob", true)]) := by decide +kernel
  unfold slotsAfter at hpending hready
  rw [after_append, after_cons] at hready
  rcases Option.map_eq_some_iff.mp hpending with ⟨before, hbefore, hold⟩
  rcases Option.map_eq_some_iff.mp hready with ⟨after, hafter, hnew⟩
  simp only [Prod.mk.injEq] at hold hnew
  rcases hnew with ⟨hstatus, hsigners, hslots⟩
  have hnot : before.status ≠ .ready := by
    rw [hold.1]
    exact fun h => nomatch h
  have hid : after.id = "ms-1" := Table.key_of_findOne hafter
  rcases hlast before after (hid ▸ hbefore) hnot (hid ▸ hafter) hstatus with ⟨message, -, hall⟩
  have halice : "alice" ∈ after.collectedSignatures.map CollectedSignature.signer := by
    rw [hsigners]
    exact List.mem_cons_self
  rcases List.mem_map.mp halice with ⟨sig, hsig, hsigner⟩
  have hslot := List.mem_map_of_mem (f := fun slot => (slot.1, slot.2.isSome)) (hall sig hsig).1
  rw [hslots, hsigner] at hslot
  simp at hslot

/-- A transaction that its only signer pays for carries the signature. -/
theorem multiSig_fullySigned_singleSigner :
    Along (step plainWeb3) (fun _ s _ t => SignsFully plainWeb3 s t)
      singleSigner State.empty := by
  refine (multiSig_fullySigned_iff plainWeb3 ?_ singleSigner ?_).mpr ?_
  · intro key message hempty
    have hlength := congrArg String.length hempty
    simp [plainWeb3] at hlength
    exact absurd hlength.1 (by decide)
  · exact ⟨rfl, rfl, trivial, trivial, trivial⟩
  · refine ⟨trivial, trivial, fun multiSigTx signer message hcheck _ _ => ?_, trivial, trivial⟩
    -- One signature is needed, and the signer pays.
    have hfound : (checkSigner plainWeb3 "ms-1" "alice"
        (after (step plainWeb3) (singleSigner.take 2) State.empty)).toOption.map (fun found =>
          (found.1.requiredSignatures, found.1.transaction.feePayer, found.2)) =
        some (1, some "alice", "alice") := by decide +kernel
    have hsame := congrArg (fun outcome => outcome.toOption.map fun found =>
      (found.1.requiredSignatures, found.1.transaction.feePayer, found.2)) hcheck
    have hboth := Option.some.inj (hfound.symm.trans hsame)
    simp only [Prod.mk.injEq] at hboth
    rcases hboth with ⟨hrequired, hpayer, rfl⟩
    refine ⟨le_of_eq hrequired.symm, ?_⟩
    rw [← hpayer]
    rfl

end Signing

end SvmCourse
