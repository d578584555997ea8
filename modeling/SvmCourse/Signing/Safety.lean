import SvmCourse.Signing.MultiSig

/-!
# Multi-Signature Safety

A transaction that is ready or executed carries the signatures of as many
different signers of its account as the threshold asks for. That much holds in
every run: signatures are collected one by one behind the checks, and an
account is never changed.

What a run does not guarantee is that a transaction is left alone by a call
that is turned away. Sending has one handler for everything that goes wrong,
its own checks included, and the handler marks the transaction as failed. So a
transaction that is sent too early fails before it is signed, and one that is
sent twice has failed after it was executed. Runs that only send what is ready
keep all promises, and no others do.

## Main definitions

* `State.Sound`: The invariant.
* `Promised`: What the service promises about one call.
* `Call.SendsReady`: The call does not send what is pending or executed.

## Theorems

* `step_sound`: Every call keeps the invariant.
* `promised_iff`: Calls keep the promises exactly when they send what is ready.
* `multiSig_promised_iff`: The same for runs.
-/

namespace SvmCourse

namespace Signing

open Core Core.Machine

/-! ### Promises -/

/-- As many different signers of the account as its threshold have signed. -/
def State.Authorises (s : State) (multiSigTx : MultiSigTransaction) : Prop :=
  ∃ account signers, s.multiSigAccounts.findOne multiSigTx.multiSigAddress = some account ∧
    List.Nodup signers ∧ account.config.threshold ≤ (signers.length : ℚ) ∧
    ∀ signer ∈ signers, signer ∈ account.config.signers ∧
      signer ∈ multiSigTx.collectedSignatures.map CollectedSignature.signer

/-- The call is turned away by one of its checks. -/
def Call.Refused (web3 : Web3) (call : Call) (s : State) : Prop :=
  match call with
  | .sign txId signerPrivateKey => ∃ e, checkSigner web3 txId signerPrivateKey s = .error e
  | .execute txId _ => ∃ e, checkReady txId s = .error e
  | _ => False

/-- What the service promises about a call that finds `s` and leaves `t`. -/
structure Promised (web3 : Web3) (call : Call) (s t : State) : Prop where
  authorised : ∀ multiSigTx ∈ t.multiSigTransactions.rows,
    multiSigTx.status = .ready ∨ multiSigTx.status = .executed → t.Authorises multiSigTx
  terminal : ∀ multiSigTx ∈ s.multiSigTransactions.rows, multiSigTx.status = .executed →
    t.multiSigTransactions.findOne multiSigTx.id = some multiSigTx
  unchanged : call.Refused web3 s → t.multiSigTransactions = s.multiSigTransactions

/-- The call does not send a transaction that is pending or executed. -/
def Call.SendsReady (call : Call) (s : State) : Prop :=
  match call with
  | .execute txId _ => ∀ multiSigTx, s.multiSigTransactions.findOne txId = some multiSigTx →
      multiSigTx.status = .ready ∨ multiSigTx.status = .failed
  | _ => True

/-! ### The checks -/

/-- The configuration of an account is in bounds. -/
theorem checkConfig_eq_ok {config : MultiSigConfig} {u : Unit} (h : checkConfig config = .ok u) :
    config.threshold ≤ (config.signers.length : ℚ) ∧ 1 ≤ config.threshold := by
  unfold checkConfig at h
  rcases bind_eq_ok h with ⟨_, hmost, h⟩
  rcases bind_eq_ok h with ⟨_, hleast, -⟩
  exact ⟨of_decide_eq_true (require_eq_ok hmost), of_decide_eq_true (require_eq_ok hleast)⟩

/-- What the checks of a signer have found. -/
structure Admitted (s : State) (txId : String) (multiSigTx : MultiSigTransaction)
    (account : MultiSigAccount) (signer : PublicKey) : Prop where
  find : s.multiSigTransactions.findOne txId = some multiSigTx
  pending : multiSigTx.status = .pending
  findAccount : s.multiSigAccounts.findOne multiSigTx.multiSigAddress = some account
  authorised : signer ∈ account.config.signers
  fresh : signer ∉ multiSigTx.collectedSignatures.map CollectedSignature.signer

theorem checkSigner_eq_ok {web3 : Web3} {txId signerPrivateKey : String} {s : State}
    {multiSigTx : MultiSigTransaction} {signer : PublicKey}
    (h : checkSigner web3 txId signerPrivateKey s = .ok (multiSigTx, signer)) :
    ∃ account, Admitted s txId multiSigTx account signer := by
  unfold checkSigner at h
  -- All checks of the code, in their order, have passed.
  rcases bind_eq_ok h with ⟨found, hfind, h⟩
  rcases bind_eq_ok h with ⟨_, hpending, h⟩
  rcases bind_eq_ok h with ⟨account, haccount, h⟩
  rcases bind_eq_ok h with ⟨key, -, h⟩
  rcases bind_eq_ok h with ⟨_, hauthorised, h⟩
  rcases bind_eq_ok h with ⟨_, hfresh, h⟩
  rcases Prod.mk.inj (Except.ok.inj h) with ⟨rfl, rfl⟩
  refine ⟨account, demand_eq_ok hfind, of_decide_eq_true (require_eq_ok hpending),
    demand_eq_ok haccount, List.contains_iff_mem.mp (require_eq_ok hauthorised), ?_⟩
  intro hsigned
  rcases List.mem_map.mp hsigned with ⟨sig, hmem, hsame⟩
  have hany : (found.collectedSignatures.any fun sig => decide (sig.signer = key)) = true :=
    List.any_eq_true.mpr ⟨sig, hmem, decide_eq_true hsame⟩
  have hnone := require_eq_ok hfresh
  rw [hany] at hnone
  exact nomatch hnone

theorem checkReady_eq_ok {txId : String} {s : State} {multiSigTx : MultiSigTransaction}
    (h : checkReady txId s = .ok multiSigTx) :
    s.multiSigTransactions.findOne txId = some multiSigTx ∧ multiSigTx.status = .ready := by
  unfold checkReady at h
  rcases bind_eq_ok h with ⟨found, hfind, h⟩
  rcases bind_eq_ok h with ⟨_, hready, h⟩
  obtain rfl := Except.ok.inj h
  exact ⟨demand_eq_ok hfind, of_decide_eq_true (require_eq_ok hready)⟩

theorem checkReady_ok {txId : String} {s : State} {multiSigTx : MultiSigTransaction}
    (hfind : s.multiSigTransactions.findOne txId = some multiSigTx)
    (hready : multiSigTx.status = .ready) : checkReady txId s = .ok multiSigTx := by
  unfold checkReady
  rw [hfind]
  change (require (decide (multiSigTx.status = .ready)) _ >>= fun _ => pure multiSigTx) = _
  rw [hready]
  rfl

/-! ### The invariant -/

/-- Different signers of the account have signed: as many as are required once
    the transaction is ready, and too few before. -/
structure Collected (account : MultiSigAccount) (multiSigTx : MultiSigTransaction) : Prop where
  required : multiSigTx.requiredSignatures = account.config.threshold
  nodup : (multiSigTx.collectedSignatures.map CollectedSignature.signer).Nodup
  signers : ∀ signer ∈ multiSigTx.collectedSignatures.map CollectedSignature.signer,
    signer ∈ account.config.signers
  enough : multiSigTx.status = .ready ∨ multiSigTx.status = .executed →
    multiSigTx.requiredSignatures ≤ (multiSigTx.collectedSignatures.length : ℚ)
  short : multiSigTx.status = .pending →
    (multiSigTx.collectedSignatures.length : ℚ) < multiSigTx.requiredSignatures

/-- Accounts ask for some signature, and what was collected for a transaction is by
    signers of its account. -/
structure State.Sound (s : State) : Prop where
  accounts : ∀ account ∈ s.multiSigAccounts.rows, 1 ≤ account.config.threshold
  transactions : ∀ multiSigTx ∈ s.multiSigTransactions.rows, ∃ account,
    s.multiSigAccounts.findOne multiSigTx.multiSigAddress = some account ∧
      Collected account multiSigTx

theorem sound_empty : State.empty.Sound :=
  ⟨fun _ h => absurd h List.not_mem_nil, fun _ h => absurd h List.not_mem_nil⟩

section Steps

variable {web3 : Web3} {s : State}

/-- A ready transaction is authorised. -/
theorem State.Sound.authorises (hs : s.Sound) {multiSigTx : MultiSigTransaction}
    (hmem : multiSigTx ∈ s.multiSigTransactions.rows)
    (hstatus : multiSigTx.status = .ready ∨ multiSigTx.status = .executed) :
    s.Authorises multiSigTx := by
  rcases hs.transactions multiSigTx hmem with ⟨account, hfind, hcollected⟩
  refine ⟨account, _, hfind, hcollected.nodup, ?_, fun signer h => ⟨hcollected.signers signer h, h⟩⟩
  rw [List.length_map, ← hcollected.required]
  exact hcollected.enough hstatus

/-- A transaction may be stored when it has collected what it should. -/
theorem State.Sound.withTransaction (hs : s.Sound) {multiSigTx : MultiSigTransaction}
    {account : MultiSigAccount}
    (hfind : s.multiSigAccounts.findOne multiSigTx.multiSigAddress = some account)
    (hcollected : Collected account multiSigTx) : (s.withTransaction multiSigTx).Sound := by
  refine ⟨hs.accounts, fun other hother => ?_⟩
  rcases Table.mem_save.mp hother with rfl | ⟨hold, -⟩
  · exact ⟨account, hfind, hcollected⟩
  · exact hs.transactions other hold

/-- A transaction that is stored may fail, and one that is ready may be executed. -/
theorem Collected.withStatus {account : MultiSigAccount} {multiSigTx : MultiSigTransaction}
    (h : Collected account multiSigTx) {status : MultiSigStatus} (hpending : status ≠ .pending)
    (hready : status = .ready ∨ status = .executed → multiSigTx.status = .ready) :
    Collected account { multiSigTx with status := status } :=
  ⟨h.required, h.nodup, h.signers, fun hstatus => h.enough (Or.inl (hready hstatus)),
    fun hstatus => absurd hstatus hpending⟩

/-- One more signature makes the transaction ready when it was the last that
    was missing. -/
theorem Admitted.collected {txId : String} {multiSigTx : MultiSigTransaction}
    {account : MultiSigAccount} {signer : PublicKey}
    (h : Admitted s txId multiSigTx account signer) (hcollected : Collected account multiSigTx)
    (transaction : SolanaTransaction) :
    Collected account (multiSigTx.collected signer transaction) := by
  unfold MultiSigTransaction.collected
  refine ⟨hcollected.required, ?_, ?_, fun hstatus => ?_, fun hstatus => ?_⟩
  · -- The signer is not among those that signed before.
    rw [List.map_append, List.nodup_append]
    refine ⟨hcollected.nodup, List.nodup_singleton _, fun a ha b hb hab => ?_⟩
    rw [hab, List.mem_singleton.mp hb] at ha
    exact h.fresh ha
  · intro key hkey
    rw [List.map_append, List.mem_append] at hkey
    rcases hkey with hold | hnew
    · exact hcollected.signers key hold
    · rw [List.mem_singleton.mp hnew]
      exact h.authorised
  · -- The status is ready exactly if enough have signed.
    by_contra hshort
    simp only [hshort, if_false, h.pending, reduceCtorEq, or_self] at hstatus
  · by_contra hlong
    simp only [not_lt] at hlong
    simp only [hlong, if_true, reduceCtorEq] at hstatus

/-- The handler leaves collected signatures alone. -/
theorem State.Sound.failTransaction (hs : s.Sound) (txId : String) :
    (s.failTransaction txId).Sound := by
  unfold State.failTransaction
  cases hfind : s.multiSigTransactions.findOne txId with
  | none => exact hs
  | some multiSigTx =>
      rcases hs.transactions multiSigTx (Table.mem_of_findOne hfind) with ⟨account, ha, hcollected⟩
      refine hs.withTransaction ha (hcollected.withStatus (fun h => nomatch h) fun h => ?_)
      rcases h with h | h <;> exact nomatch h

/-- Every call keeps the invariant. -/
theorem step_sound (call : Call) (hfresh : call.Fresh s) (hs : s.Sound) :
    (step web3 s call).2.Sound := by
  cases call with
  | createAccount config derived =>
      simp only [step, answered, createMultiSigAccount]
      cases hcheck : checkConfig config with
      | error e => exact hs
      | ok _ =>
      cases derived with
      | error e => exact hs
      | ok address =>
          refine ⟨fun account haccount => ?_, fun multiSigTx hmem => ?_⟩
          · rcases Table.mem_save.mp haccount with rfl | ⟨hold, -⟩
            · exact (checkConfig_eq_ok hcheck).2
            · exact hs.accounts account hold
          · rcases hs.transactions multiSigTx hmem with ⟨account, hfind, hcollected⟩
            refine ⟨account, (Table.findOne_save_of_ne fun hsame => ?_).trans hfind, hcollected⟩
            -- The address is new, and this one has an account.
            have hnone : s.multiSigAccounts.findOne address = none := hfresh
            rw [hsame] at hfind
            exact nomatch hfind.symm.trans hnone
  | createTransaction multiSigAddress transaction txId =>
      simp only [step, answered, createMultiSigTransaction]
      cases hfind : s.multiSigAccounts.findOne multiSigAddress with
      | none => exact hs
      | some account =>
          refine hs.withTransaction hfind ⟨rfl, List.nodup_nil, ?_, fun h => ?_, fun _ => ?_⟩
          · exact fun _ h => absurd h List.not_mem_nil
          · rcases h with h | h <;> exact nomatch h
          · have hone := hs.accounts account (Table.mem_of_findOne hfind)
            exact lt_of_lt_of_le (Nat.cast_zero.trans_lt zero_lt_one) hone
  | sign txId signerPrivateKey =>
      simp only [step, answered, signMultiSigTransaction]
      cases hcheck : checkSigner web3 txId signerPrivateKey s with
      | error e => exact hs
      | ok found =>
      rcases found with ⟨multiSigTx, signer⟩
      rcases checkSigner_eq_ok hcheck with ⟨account, hadmitted⟩
      rcases hs.transactions multiSigTx (Table.mem_of_findOne hadmitted.find) with
        ⟨other, hfind, hcollected⟩
      obtain rfl : other = account := Option.some.inj (hfind.symm.trans hadmitted.findAccount)
      rcases hsign : multiSigTx.transaction.sign web3 signer with ⟨result, transaction⟩
      simp only [hsign]
      cases result with
      | error e =>
          exact hs.withTransaction hfind ⟨hcollected.required, hcollected.nodup, hcollected.signers,
            hcollected.enough, hcollected.short⟩
      | ok _ => exact hs.withTransaction hfind (hadmitted.collected hcollected transaction)
  | execute txId answer =>
      simp only [step, answered, executeMultiSigTransaction]
      cases hcheck : checkReady txId s with
      | error e => exact hs.failTransaction txId
      | ok multiSigTx =>
      cases answer with
      | error e => exact hs.failTransaction txId
      | ok signature =>
          rcases checkReady_eq_ok hcheck with ⟨hfind, hready⟩
          rcases hs.transactions multiSigTx (Table.mem_of_findOne hfind) with
            ⟨account, ha, hcollected⟩
          exact hs.withTransaction ha (hcollected.withStatus (fun h => nomatch h) fun _ => hready)

/-! ### Calls that keep the promises -/

/-- Failing a transaction again changes nothing. -/
theorem failTransaction_unchanged {txId : String}
    (h : ∀ multiSigTx, s.multiSigTransactions.findOne txId = some multiSigTx →
      multiSigTx.status = .failed) : s.failTransaction txId = s := by
  unfold State.failTransaction
  cases hfind : s.multiSigTransactions.findOne txId with
  | none => rfl
  | some multiSigTx =>
      have hkey : multiSigTx.id = txId := Table.key_of_findOne hfind
      have hsame : { multiSigTx with status := .failed } = multiSigTx := by
        rw [← h multiSigTx hfind]
      simp only [hsame]
      unfold State.withTransaction
      rw [Table.save_of_findOne (hkey ▸ hfind)]

theorem failTransaction_findOne {txId : String} {multiSigTx : MultiSigTransaction}
    (hfind : s.multiSigTransactions.findOne txId = some multiSigTx) :
    (s.failTransaction txId).multiSigTransactions.findOne txId =
      some { multiSigTx with status := .failed } := by
  have hkey : multiSigTx.id = txId := Table.key_of_findOne hfind
  unfold State.failTransaction
  rw [hfind, ← hkey]
  exact Table.findOne_save_self s.multiSigTransactions { multiSigTx with status := .failed }

/-- Storing a transaction leaves those that are executed, unless it is one. -/
theorem executed_withTransaction {multiSigTx stored : MultiSigTransaction}
    (hfind : s.multiSigTransactions.findOne multiSigTx.id = some stored)
    (hstored : stored.status ≠ .executed) {other : MultiSigTransaction}
    (hmem : other ∈ s.multiSigTransactions.rows) (hexecuted : other.status = .executed) :
    (s.withTransaction multiSigTx).multiSigTransactions.findOne other.id = some other := by
  have hother := Table.findOne_of_mem hmem
  refine (Table.findOne_save_of_ne fun hsame => ?_).trans hother
  rw [hsame, hfind] at hother
  rw [Option.some.inj hother] at hstored
  exact hstored hexecuted

/-- An executed transaction stays as it is. -/
theorem executed_step (call : Call) (hfresh : call.Fresh s) (hready : call.SendsReady s)
    {other : MultiSigTransaction} (hmem : other ∈ s.multiSigTransactions.rows)
    (hexecuted : other.status = .executed) :
    (step web3 s call).2.multiSigTransactions.findOne other.id = some other := by
  have hother := Table.findOne_of_mem hmem
  cases call with
  | createAccount config derived =>
      simp only [step, answered, createMultiSigAccount]
      cases checkConfig config with
      | error e => exact hother
      | ok _ => cases derived <;> exact hother
  | createTransaction multiSigAddress transaction txId =>
      simp only [step, answered, createMultiSigTransaction]
      cases demand (s.multiSigAccounts.findOne multiSigAddress)
        "Multi-signature account not found" with
      | error e => exact hother
      | ok account =>
          refine (Table.findOne_save_of_ne fun hsame => ?_).trans hother
          -- The id is new, and this transaction is stored.
          have hnone : s.multiSigTransactions.findOne txId = none := hfresh
          rw [hsame] at hother
          exact nomatch hother.symm.trans hnone
  | sign txId signerPrivateKey =>
      simp only [step, answered, signMultiSigTransaction]
      cases hcheck : checkSigner web3 txId signerPrivateKey s with
      | error e => exact hother
      | ok found =>
      rcases found with ⟨multiSigTx, signer⟩
      rcases checkSigner_eq_ok hcheck with ⟨account, hadmitted⟩
      have hkey : multiSigTx.id = txId := Table.key_of_findOne hadmitted.find
      -- Only a pending transaction is signed.
      have hstored : multiSigTx.status ≠ .executed := by
        rw [hadmitted.pending]
        exact fun h => nomatch h
      rcases hsign : multiSigTx.transaction.sign web3 signer with ⟨result, transaction⟩
      simp only [hsign]
      cases result with
      | error e =>
          exact executed_withTransaction (hkey ▸ hadmitted.find) hstored hmem hexecuted
      | ok _ => exact executed_withTransaction (hkey ▸ hadmitted.find) hstored hmem hexecuted
  | execute txId answer =>
      -- What is sent is ready or has failed before.
      have hne : ∀ multiSigTx, s.multiSigTransactions.findOne txId = some multiSigTx →
          multiSigTx.status ≠ .executed := by
        intro multiSigTx hfind hdone
        rcases hready multiSigTx hfind with h | h
        · exact nomatch h.symm.trans hdone
        · exact nomatch h.symm.trans hdone
      have hfailed : (s.failTransaction txId).multiSigTransactions.findOne other.id =
          some other := by
        unfold State.failTransaction
        cases hfind : s.multiSigTransactions.findOne txId with
        | none => exact hother
        | some multiSigTx =>
            have hkey : multiSigTx.id = txId := Table.key_of_findOne hfind
            exact executed_withTransaction (hkey ▸ hfind) (hne _ hfind) hmem hexecuted
      simp only [step, answered, executeMultiSigTransaction]
      cases hcheck : checkReady txId s with
      | error e => exact hfailed
      | ok multiSigTx =>
      cases answer with
      | error e => exact hfailed
      | ok signature =>
          have hfind := (checkReady_eq_ok hcheck).1
          have hkey : multiSigTx.id = txId := Table.key_of_findOne hfind
          exact executed_withTransaction (hkey ▸ hfind) (hne _ hfind) hmem hexecuted

/-- A call that its checks refuse changes no transaction. -/
theorem refused_step (call : Call) (hready : call.SendsReady s)
    (hrefused : call.Refused web3 s) :
    (step web3 s call).2.multiSigTransactions = s.multiSigTransactions := by
  cases call with
  | createAccount config derived => exact hrefused.elim
  | createTransaction multiSigAddress transaction txId => exact hrefused.elim
  | sign txId signerPrivateKey =>
      rcases hrefused with ⟨e, hcheck⟩
      simp only [step, answered, signMultiSigTransaction, hcheck]
  | execute txId answer =>
      rcases hrefused with ⟨e, hcheck⟩
      simp only [step, answered, executeMultiSigTransaction, hcheck]
      rw [failTransaction_unchanged]
      intro multiSigTx hfind
      refine (hready multiSigTx hfind).resolve_left fun h => ?_
      exact nomatch hcheck.symm.trans (checkReady_ok hfind h)

/-- A call that sends what is ready keeps the promises. -/
theorem promised_of_sendsReady (call : Call) (hfresh : call.Fresh s) (hs : s.Sound)
    (hready : call.SendsReady s) : Promised web3 call s (step web3 s call).2 := by
  have hsound : (step web3 s call).2.Sound := step_sound call hfresh hs
  exact ⟨fun _ hmem hstatus => hsound.authorises hmem hstatus,
    fun _ hmem hexecuted => executed_step call hfresh hready hmem hexecuted,
    fun hrefused => refused_step call hready hrefused⟩

/-- A call keeps the promises exactly when it sends what is ready. -/
theorem promised_iff (call : Call) (hfresh : call.Fresh s) (hs : s.Sound) :
    Promised web3 call s (step web3 s call).2 ↔ call.SendsReady s := by
  refine ⟨fun hpromised => ?_, promised_of_sendsReady call hfresh hs⟩
  cases call with
  | createAccount config derived => exact trivial
  | createTransaction multiSigAddress transaction txId => exact trivial
  | sign txId signerPrivateKey => exact trivial
  | execute txId answer =>
      intro multiSigTx hfind
      by_cases hstatus : multiSigTx.status = .ready
      · exact Or.inl hstatus
      · refine Or.inr ?_
        -- The call is turned away, and the handler has the last word.
        have hcheck : ∃ e, checkReady txId s = .error e := by
          cases hcheck : checkReady txId s with
          | error e => exact ⟨e, rfl⟩
          | ok found =>
              rcases checkReady_eq_ok hcheck with ⟨hfound, hready⟩
              obtain rfl : found = multiSigTx := Option.some.inj (hfound.symm.trans hfind)
              exact absurd hready hstatus
        have hsame := hpromised.unchanged hcheck
        rcases hcheck with ⟨e, hcheck⟩
        simp only [step, answered, executeMultiSigTransaction, hcheck] at hsame
        have hfailed := failTransaction_findOne hfind
        rw [hsame, hfind, Option.some.injEq] at hfailed
        exact congrArg MultiSigTransaction.status hfailed

end Steps

/-- Every call of a run keeps the promises exactly when every call that sends a
    transaction sends one that is ready, or has failed before. -/
theorem multiSig_promised_iff (web3 : Web3) (calls : List Call)
    (hfresh : Along (step web3) (fun call s _ _ => call.Fresh s) calls State.empty) :
    Along (step web3) (fun call s _ t => Promised web3 call s t) calls State.empty ↔
      Along (step web3) (fun call s _ _ => call.SendsReady s) calls State.empty := by
  refine along_congr (I := State.Sound) (fun call s hnew hs => ?_) (fun call s hnew hs => ?_)
    sound_empty hfresh
  · exact promised_iff call hnew hs
  · exact step_sound call hnew hs

/-! ### A transaction that is sent twice -/

/-- Keys are their own names. -/
def plainWeb3 : Web3 where
  fromSecretKey signerPrivateKey := .ok signerPrivateKey
  signature signer _ := s!"signed by {signer}"

/-- One signer is enough, and the transaction is sent when it has signed. -/
def singleSigner : List Call :=
  [.createAccount ⟨1, ["alice"]⟩ (.ok "account"),
    .createTransaction "account" { feePayer := "alice", recentBlockhash := "hash" } "ms-1",
    .sign "ms-1" "alice",
    .execute "ms-1" (.ok "sent")]

/-- The status of the transaction after some calls. -/
def statusAfter (calls : List Call) : Option MultiSigStatus :=
  ((after (step plainWeb3) calls State.empty).multiSigTransactions.findOne "ms-1").map
    MultiSigTransaction.status

/-- Sending an executed transaction again turns it into a failed one. -/
theorem not_multiSig_promised :
    ¬ Along (step plainWeb3) (fun call s _ t => Promised plainWeb3 call s t)
      (singleSigner ++ [.execute "ms-1" (.ok "sent")]) State.empty := by
  intro h
  have hlast := (along_append.mp h).2.1
  have hexecuted : statusAfter singleSigner = some .executed := by decide +kernel
  -- Executed is a last status, and is left all the same.
  have hfailed : statusAfter (singleSigner ++ [.execute "ms-1" (.ok "sent")]) = some .failed := by
    decide +kernel
  unfold statusAfter at hexecuted hfailed
  rcases Option.map_eq_some_iff.mp hexecuted with ⟨multiSigTx, hfind, hstatus⟩
  have hkept := hlast.terminal multiSigTx (Table.mem_of_findOne hfind) hstatus
  rw [Table.key_of_findOne hfind] at hkept
  rw [after_append, after_cons] at hfailed
  have hboth := hfailed.symm.trans (congrArg (Option.map MultiSigTransaction.status) hkept)
  rw [Option.map_some, hstatus] at hboth
  exact absurd hboth (by decide)

/-- Sent once, the transaction is executed and stays so. -/
theorem multiSig_promised_singleSigner :
    Along (step plainWeb3) (fun call s _ t => Promised plainWeb3 call s t)
      singleSigner State.empty := by
  refine (multiSig_promised_iff plainWeb3 singleSigner ?_).mpr ?_
  · exact ⟨rfl, rfl, trivial, trivial, trivial⟩
  · refine ⟨trivial, trivial, trivial, fun multiSigTx hfind => Or.inl ?_, trivial⟩
    have hready : statusAfter (singleSigner.take 3) = some .ready := by decide +kernel
    have hsame := (congrArg (Option.map MultiSigTransaction.status) hfind).symm.trans hready
    exact Option.some.inj hsame

end Signing

end SvmCourse
