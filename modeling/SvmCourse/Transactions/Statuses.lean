import SvmCourse.Transactions.Records

/-!
# The Status of a Stored Transaction

The status of a record is looked up on the network again and again: for one
signature, or for all the signatures of an address. What the network answers
decides, whatever the record says already. A node that lags answers that a
transaction is only processed, and then a record that was confirmed is pending
again.

What the outside decides comes with the call: how the network answers and how
every publication ends.

## Main definitions

* `updateTransactionStatus`, `getTransactionHistory`: What the service does.
* `Lasting`: A final status is final, and is announced once.
* `Reply.Agrees`: The network does not take a final status back.

## Theorems

* `updateTransactionStatus_cases`: What looking up one status can change.
* `lasting_iff`: When final statuses are final along a run.
-/

namespace SvmCourse

namespace Transactions

open Core Core.Prog Core.Machine

/-! ### Writing a status -/

/-- The row with another status. -/
def Record.withStatus (row : Record) (status : TransactionStatus) : Record := { row with status }

theorem Record.withStatus_id (row : Record) (status : TransactionStatus) :
    (row.withStatus status).id = row.id := rfl

namespace Records

/-- The table with another status in the row of the id. -/
def update (records : Records) (id : Nat) (status : TransactionStatus) : Records where
  table := records.table.update (fun row => row.id = id) (fun row => row.withStatus status)
    fun row => row.withStatus_id status
  signatures := by
    have hsame : ∀ row : Record, (row.withStatus status).signature = row.signature := fun _ => rfl
    rw [Table.map_update fun row _ _ => hsame row]
    exact records.signatures

variable {records records' : Records} {row : Record}

/-- An update that gives only a status is never refused. -/
theorem change_status (records : Records) (id : Nat) (status : TransactionStatus) :
    records.change id { status := some status } = .ok (records.update id status) := by
  have hrows : (records.table.rows.map fun row =>
      if row.id = id then UpdateData.apply { status := some status } row else row) =
        (records.update id status).table.rows :=
    List.map_congr_left fun row _ => by simp only [decide_eq_true_eq]; rfl
  have hfits : UpdateData.Fits { status := some status } :=
    ⟨fun _ h => (nomatch h), fun _ h => (nomatch h), fun _ h => (nomatch h)⟩
  have hkeys : ((records.update id status).table.rows.map fun row => row.id).Nodup ∧
      ((records.update id status).table.rows.map fun row => row.signature).Nodup :=
    ⟨(records.update id status).table.unique, (records.update id status).signatures⟩
  simp only [change, if_pos hfits, hrows, dif_pos hkeys]

/-- The row of the id has the status. -/
theorem findOne_update (h : row ∈ records.table.rows) (status : TransactionStatus) :
    (records.update row.id status).table.findOne row.id = some (row.withStatus status) := by
  have hfound : records.table.findOne row.id = some row := Table.findOne_of_mem h
  rw [update, Table.findOne_update, hfound, Option.map_some, if_pos (decide_eq_true rfl)]

/-- The rows are the same but for that status. -/
theorem mem_update {id : Nat} {status : TransactionStatus}
    (h : row ∈ (records.update id status).table.rows) :
    row.status = status ∨ row ∈ records.table.rows ∧ row.id ≠ id := by
  rw [update, Table.mem_update] at h
  rcases h with ⟨old, hold, rfl⟩
  split
  · exact Or.inl rfl
  · next hid => exact Or.inr ⟨hold, by simpa using hid⟩

end Records

/-- The tracker after the status of a row was written. -/
def Tracker.updated (tracker : Tracker) (row : Record) (status : TransactionStatus) : Tracker where
  records := tracker.records.update row.id status
  changes := tracker.changes ++ [⟨row.signature, row.status, status⟩]
  published := tracker.published ++
    [transactionStatusUpdated (row.withStatus status).toTransaction row.status]

/-- How many events say that the transaction is confirmed. -/
def Tracker.confirmations (tracker : Tracker) (signature : String) : Nat :=
  tracker.published.countP fun event => event.eventType = .CONFIRMED ∧ event.signature = signature

namespace Statuses

/-! ### Answers of the network -/

/-- How sure the network is of a transaction. -/
inductive ConfirmationStatus where
  | processed | confirmed | finalized
  deriving DecidableEq, Repr

/-- What the network says of a signature. -/
structure SignatureStatus where
  err : Option String := none
  confirmationStatus : Option ConfirmationStatus := none
  deriving DecidableEq

/-- The status that an answer stands for. -/
def SignatureStatus.newStatus (blockchainStatus : SignatureStatus) : TransactionStatus :=
  if blockchainStatus.err.isSome then .FAILED
  else if blockchainStatus.confirmationStatus = some .confirmed ∨
      blockchainStatus.confirmationStatus = some .finalized then .CONFIRMED
  else .PENDING

/-- What the network answers for a signature, and how the publications end: that
    of the update, and that of what it has come to. -/
structure Reply where
  signatureStatus : Except String (Option SignatureStatus) := .ok none
  statusUpdated : Except String Unit := .ok ()
  concluded : Except String Unit := .ok ()

/-- The event about what a transaction has come to. -/
def conclude (newStatus : TransactionStatus) (updatedTransaction : Record)
    (outcome : Except String Unit) : Service Unit :=
  match newStatus with
  | .CONFIRMED => publish (transactionConfirmed updatedTransaction.toTransaction) outcome
  | .FAILED =>
    publish (transactionFailed updatedTransaction.toTransaction "Blockchain confirmation failed")
      outcome
  | .PENDING => pure ()

/-- Update the status of a transaction by what the network says, and return the
    row. -/
def updateTransactionStatus (signature : String) (reply : Reply) : Service Record :=
  Prog.rescue
    (do
      let found ← transactionsRepository.findBySignature signature
      let transaction ← demand found "Transaction not found in database"
      let confirmation ← compute reply.signatureStatus
      match confirmation with
      | none => pure transaction
      | some blockchainStatus =>
        -- The answer decides, whatever the record says.
        if blockchainStatus.newStatus ≠ transaction.status then do
          let updated ←
            update transaction.id { status := some blockchainStatus.newStatus } reply.statusUpdated
          let updatedTransaction ← demand updated "Cannot read properties of null (reading 'id')"
          conclude blockchainStatus.newStatus updatedTransaction reply.concluded
          pure updatedTransaction
        else pure transaction)
    fun message => .raise s!"Failed to update transaction status: {message}"

/-- A signature of an address, with what comes of it: the details of the
    transaction, which are its fee if it has one, the id of its record and how
    the publication of the record ends if it is new, and how its status is
    answered if it is not. -/
structure Visit where
  signature : String
  err : Option String := none
  details : Except String (Option (Option ℚ)) := .ok none
  id : Nat := 0
  created : Except String Unit := .ok ()
  reply : Reply := {}

/-- The record of a signature that is not stored. -/
def Visit.row (sig : Visit) (fee : Option ℚ) : Record where
  id := sig.id
  signature := sig.signature
  type := .TRANSFER
  status := if sig.err.isSome then .FAILED else .CONFIRMED
  fee := some (fee.getD 0)

/-- Look at one signature of a history: update its row, or save a new one. -/
def visit (sig : Visit) : Service (Option Record) := do
  let transaction ← transactionsRepository.findBySignature sig.signature
  match transaction with
  | none => do
    let txDetails ← compute sig.details
    match txDetails with
    -- The network does not know the signature, so nothing is stored.
    | none => pure none
    | some fee => do
      let transaction ← create (sig.row fee) false sig.created
      pure (some transaction)
  | some _ => do
    let transaction ← updateTransactionStatus sig.signature sig.reply
    pure (some transaction)

/-- Look at all signatures of a history, one after the other. -/
def visits : List Visit → Service (List Record)
  | [] => pure []
  | sig :: signatures => do
    let transaction ← visit sig
    let transactions ← visits signatures
    pure (transaction.toList ++ transactions)

/-- The address can be read or not, and the network answers with its signatures
    or not. -/
def getTransactionHistory (publicKey : Except String Unit)
    (signatures : Except String (List Visit)) : Service (List Record) :=
  Prog.rescue
    (do
      compute publicKey
      let signatures ← compute signatures
      visits signatures)
    fun message => .raise s!"Failed to get transaction history: {message}"

/-! ### Runs -/

/-- The calls of the service. -/
inductive Call where
  | updateTransactionStatus (signature : String) (reply : Reply)
  | getTransactionHistory (publicKey : Except String Unit) (signatures : Except String (List Visit))

/-- What a call does, access by access. -/
def Call.program : Call → Service (List Record)
  | .updateTransactionStatus signature reply => do
    let transaction ← Statuses.updateTransactionStatus signature reply
    pure [transaction]
  | .getTransactionHistory publicKey signatures =>
    Statuses.getTransactionHistory publicKey signatures

/-- One call on the records. -/
def step (tracker : Tracker) (call : Call) : Except String (List Record) × Tracker :=
  call.program.eval tracker

/-- A final status has never become pending again, and no transaction has been
    announced as confirmed twice. -/
structure Lasting (tracker : Tracker) : Prop where
  final : ∀ change ∈ tracker.changes, change.previousStatus ≠ .PENDING → change.status ≠ .PENDING
  once : ∀ signature, tracker.confirmations signature ≤ 1

/-- The network does not take back the final status of a stored record with this
    answer, and does not confirm a failed one that was announced before. -/
def Reply.Agrees (reply : Reply) (signature : String) (tracker : Tracker) : Prop :=
  ∀ row blockchainStatus, tracker.records.findBySignature signature = some row →
    reply.signatureStatus = .ok (some blockchainStatus) →
    (row.status ≠ .PENDING → blockchainStatus.newStatus ≠ .PENDING) ∧
    (row.status = .FAILED → blockchainStatus.newStatus = .CONFIRMED →
      reply.statusUpdated = .ok () → tracker.confirmations signature = 0)

/-- The same for the signatures of an address, one after another as long as none
    raises an exception. -/
def AllAgree : List Visit → Tracker → Prop
  | [], _ => True
  | sig :: signatures, tracker =>
    sig.reply.Agrees sig.signature tracker ∧
      ∀ transaction later, (visit sig).eval tracker = (.ok transaction, later) →
        AllAgree signatures later

/-- What the network says agrees with the rows that a call finds. -/
def Call.Agrees (tracker : Tracker) : Call → Prop
  | .updateTransactionStatus signature reply => reply.Agrees signature tracker
  | .getTransactionHistory publicKey signatures =>
    publicKey = .ok () → ∀ sigs, signatures = .ok sigs → AllAgree sigs tracker

/-! ### What a call can change -/

section

variable {tracker later : Tracker} {row : Record} {signature : String} {reply : Reply} {sig : Visit}

/-- What is announced about the new status. -/
def conclusion (newStatus : TransactionStatus) (row : Record) : List TransactionEvent :=
  match newStatus with
  | .CONFIRMED => [transactionConfirmed row.toTransaction]
  | .FAILED => [transactionFailed row.toTransaction "Blockchain confirmation failed"]
  | .PENDING => []

theorem eval_conclude (newStatus : TransactionStatus) (row : Record) (outcome : Except String Unit)
    (tracker : Tracker) : ∃ answer, (conclude newStatus row outcome).eval tracker =
      (answer, tracker.hears (conclusion newStatus row)) := by
  cases newStatus with
  | PENDING =>
      refine ⟨.ok (), ?_⟩
      rw [conclude, conclusion, Tracker.hears, List.append_nil]
      rfl
  | CONFIRMED => exact ⟨outcome, eval_publish ..⟩
  | FAILED => exact ⟨outcome, eval_publish ..⟩

/-- A new status is written and announced. -/
theorem eval_update {status : TransactionStatus} (h : row ∈ tracker.records.table.rows)
    (hnew : status ≠ row.status) (outcome : Except String Unit) :
    (update row.id { status := some status } outcome).eval tracker =
      (outcome.map fun _ => some (row.withStatus status), tracker.updated row status) := by
  have hfound : tracker.records.table.findOne row.id = some row := Table.findOne_of_mem h
  have hlater := Records.findOne_update h status
  have hdifferent : (some status).isSome ∧ some status ≠ some row.status :=
    ⟨rfl, fun hsame => hnew (Option.some.inj hsame)⟩
  simp only [update, transactionsRepository.findOne, transactionsRepository.update, query,
    bind_eq, pure_eq, eval_bind, eval_perform, eval_compute, hfound, eval_demand_some,
    Records.change_status, hlater, if_pos hdifferent, eval_publish]
  cases outcome <;> rfl

/-- What is announced unless the announcement of the change raises an exception. -/
def Reply.announces (reply : Reply) (newStatus : TransactionStatus) (row : Record) :
    List TransactionEvent :=
  match reply.statusUpdated with
  | .ok () => conclusion newStatus (row.withStatus newStatus)
  | .error _ => []

/-- A look at a status changes nothing, because nothing is found, nothing is
    answered, or the answer is what the record says. Or it writes what the answer
    stands for, and announces that. -/
theorem updateTransactionStatus_cases (tracker : Tracker) (signature : String) (reply : Reply) :
    (((updateTransactionStatus signature reply).eval tracker).2 = tracker ∧
      ∀ row blockchainStatus, tracker.records.findBySignature signature = some row →
        reply.signatureStatus = .ok (some blockchainStatus) →
        blockchainStatus.newStatus = row.status) ∨
    ∃ row blockchainStatus, tracker.records.findBySignature signature = some row ∧
      reply.signatureStatus = .ok (some blockchainStatus) ∧
      blockchainStatus.newStatus ≠ row.status ∧
      ((updateTransactionStatus signature reply).eval tracker).2 =
        (tracker.updated row blockchainStatus.newStatus).hears
          (reply.announces blockchainStatus.newStatus row) := by
  have hlookup : (transactionsRepository.findBySignature signature).eval tracker =
      (.ok (tracker.records.findBySignature signature), tracker) := rfl
  rw [updateTransactionStatus, eval_reraise, bind_eq, eval_bind_ok hlookup]
  cases hfound : tracker.records.findBySignature signature with
  | none => exact Or.inl ⟨rfl, fun _ _ h => by cases h⟩
  | some row =>
      rw [bind_eq, eval_bind_ok (eval_demand_some row _ tracker), bind_eq, eval_bind, eval_compute]
      cases hreply : reply.signatureStatus with
      | error message => exact Or.inl ⟨rfl, fun _ _ _ h => by cases h⟩
      | ok confirmation =>
          cases confirmation with
          | none => exact Or.inl ⟨rfl, fun _ _ _ h => by cases h⟩
          | some blockchainStatus =>
              by_cases hnew : blockchainStatus.newStatus = row.status
              · refine Or.inl ⟨?_, fun row' status' hrow hstatus => ?_⟩
                · simp only [hnew, ne_eq, not_true_eq_false, if_false]
                  rfl
                · cases hrow
                  cases hstatus
                  exact hnew
              · refine Or.inr ⟨row, blockchainStatus, rfl, rfl, hnew, ?_⟩
                have hrow := (Records.mem_of_findBySignature hfound).1
                simp only [ne_eq, hnew, not_false_eq_true, if_true, bind_eq, pure_eq, eval_bind,
                  eval_update hrow hnew, Reply.announces]
                cases reply.statusUpdated with
                -- What has come of the transaction is not announced then.
                | error message => rw [Tracker.hears, List.append_nil]; rfl
                | ok u =>
                    rcases eval_conclude blockchainStatus.newStatus
                      (row.withStatus blockchainStatus.newStatus) reply.concluded
                      (tracker.updated row blockchainStatus.newStatus) with ⟨answer, hconcluded⟩
                    simp only [Except.map, eval_demand_some, hconcluded]
                    cases answer <;> rfl

/-! ### Confirmations -/

theorem confirmations_hears (tracker : Tracker) (events : List TransactionEvent)
    (signature : String) : (tracker.hears events).confirmations signature =
      tracker.confirmations signature + events.countP fun event =>
        event.eventType = .CONFIRMED ∧ event.signature = signature :=
  List.countP_append

/-- The announcement of a change does not say what has come of it. -/
theorem confirmations_updated (tracker : Tracker) (row : Record) (status : TransactionStatus)
    (signature : String) :
    (tracker.updated row status).confirmations signature = tracker.confirmations signature :=
  List.countP_append.trans (Nat.add_zero _)

/-- A confirmed status is announced under the signature of the row, and no other. -/
theorem confirmations_announces (reply : Reply) (newStatus : TransactionStatus) (row : Record)
    (signature : String) :
    (reply.announces newStatus row).countP (fun event =>
        event.eventType = .CONFIRMED ∧ event.signature = signature) =
      if reply.statusUpdated = .ok () ∧ newStatus = .CONFIRMED ∧ row.signature = signature then 1
      else 0 := by
  unfold Reply.announces
  cases reply.statusUpdated with
  | error message => simp
  | ok u =>
      cases newStatus with
      | PENDING => simp [conclusion]
      | FAILED => simp [conclusion, transactionFailed, Transaction.event]
      | CONFIRMED =>
          simp [conclusion, transactionConfirmed, Transaction.event, Record.withStatus,
            List.countP_cons]

/-! ### Final statuses -/

/-- Final statuses have lasted so far, and what is pending has not been announced
    as confirmed. -/
structure Good (tracker : Tracker) : Prop where
  lasting : Lasting tracker
  pending : ∀ row ∈ tracker.records.table.rows, row.status = .PENDING →
    tracker.confirmations row.signature = 0

/-- Final statuses last over the write of a status when the answer that is
    written agrees with the record. -/
theorem lasting_written (h : Good tracker)
    (hrow : tracker.records.findBySignature signature = some row) {newStatus : TransactionStatus}
    (hnew : newStatus ≠ row.status) :
    Lasting ((tracker.updated row newStatus).hears (reply.announces newStatus row)) ↔
      (row.status ≠ .PENDING → newStatus ≠ .PENDING) ∧
      (row.status = .FAILED → newStatus = .CONFIRMED → reply.statusUpdated = .ok () →
        tracker.confirmations signature = 0) := by
  rcases Records.mem_of_findBySignature hrow with ⟨hmem, rfl⟩
  have hcount : ∀ signature, ((tracker.updated row newStatus).hears
      (reply.announces newStatus row)).confirmations signature = tracker.confirmations signature +
        if reply.statusUpdated = .ok () ∧ newStatus = .CONFIRMED ∧ row.signature = signature then 1
        else 0 := by
    intro signature
    rw [confirmations_hears, confirmations_updated, confirmations_announces]
  have hchange : ⟨row.signature, row.status, newStatus⟩ ∈ ((tracker.updated row newStatus).hears
      (reply.announces newStatus row)).changes :=
    List.mem_append_right _ (List.mem_singleton_self _)
  constructor
  · intro hlasting
    refine ⟨fun hfinal => hlasting.final _ hchange hfinal, fun _ hconfirmed hupdated => ?_⟩
    -- One announcement is new, so there was none before.
    have honce := hlasting.once row.signature
    rw [hcount, if_pos ⟨hupdated, hconfirmed, rfl⟩] at honce
    omega
  · rintro ⟨hfinal, hfailed⟩
    refine ⟨fun change hchanged => ?_, fun signature => ?_⟩
    · rcases List.mem_append.mp hchanged with hold | hone
      · exact h.lasting.final change hold
      · rw [List.mem_singleton] at hone
        subst hone
        exact hfinal
    · rw [hcount]
      split
      · next hannounced =>
          rcases hannounced with ⟨hupdated, hconfirmed, rfl⟩
          -- Whatever the record says, it was not announced as confirmed before.
          have hnone : tracker.confirmations row.signature = 0 := by
            cases hstatus : row.status with
            | PENDING => exact h.pending row hmem hstatus
            | FAILED => exact hfailed hstatus hconfirmed hupdated
            | CONFIRMED => exact absurd (hconfirmed.trans hstatus.symm) hnew
          omega
      · exact h.lasting.once signature

/-- A look at a status keeps final statuses exactly when the answer agrees with
    the record. -/
theorem lasting_updateTransactionStatus (h : Good tracker) :
    Lasting ((updateTransactionStatus signature reply).eval tracker).2 ↔
      reply.Agrees signature tracker := by
  rcases updateTransactionStatus_cases tracker signature reply with
    ⟨hsame, hstatus⟩ | ⟨row, blockchainStatus, hrow, hreply, hnew, hlater⟩
  · rw [hsame]
    refine iff_of_true h.lasting fun row blockchainStatus hrow hreply => ?_
    -- What the record says already is no change.
    rw [hstatus row blockchainStatus hrow hreply]
    exact ⟨id, fun hfailed hconfirmed => nomatch hfailed.symm.trans hconfirmed⟩
  · rw [hlater, lasting_written h hrow hnew]
    constructor
    · intro hagrees row' status' hrow' hreply'
      cases hrow.symm.trans hrow'
      cases hreply.symm.trans hreply'
      exact hagrees
    · intro hagrees
      exact hagrees row blockchainStatus hrow hreply

theorem good_updateTransactionStatus (h : Good tracker) (hagrees : reply.Agrees signature tracker) :
    Good ((updateTransactionStatus signature reply).eval tracker).2 := by
  refine ⟨(lasting_updateTransactionStatus h).mpr hagrees, ?_⟩
  rcases updateTransactionStatus_cases tracker signature reply with
    ⟨hsame, -⟩ | ⟨row, blockchainStatus, hrow, hreply, hnew, hlater⟩
  · rw [hsame]
    exact h.pending
  · rw [hlater]
    intro other hother hpending
    have hmem := (Records.mem_of_findBySignature hrow).1
    -- An answer that agrees makes no record pending.
    have hfinal : blockchainStatus.newStatus ≠ .PENDING := by
      by_cases hold : row.status = .PENDING
      · exact fun hstill => hnew (hstill.trans hold.symm)
      · exact (hagrees row blockchainStatus hrow hreply).1 hold
    rcases Records.mem_update hother with hwritten | ⟨hold, hid⟩
    · exact absurd (hwritten.symm.trans hpending) hfinal
    · rw [confirmations_hears, confirmations_updated, confirmations_announces, if_neg,
        h.pending other hold hpending]
      -- The announcement is about another signature.
      rintro ⟨-, -, hsignature⟩
      exact hid (List.inj_on_of_nodup_map tracker.records.signatures hold hmem
        hsignature.symm ▸ rfl)

/-! ### Histories -/

/-- A visit of a stored signature looks at its status. Another one changes nothing
    or saves a new record. -/
theorem visit_cases (tracker : Tracker) (sig : Visit) :
    ((visit sig).eval tracker).2 =
        ((updateTransactionStatus sig.signature sig.reply).eval tracker).2 ∨
    tracker.records.findBySignature sig.signature = none ∧
      (((visit sig).eval tracker).2 = tracker ∨
        ∃ fee records, tracker.records.save (sig.row fee) false = .ok records ∧
          ((visit sig).eval tracker).2 = Tracker.hears { tracker with records }
            [transactionCreated (sig.row fee).toTransaction]) := by
  have hlookup : (transactionsRepository.findBySignature sig.signature).eval tracker =
      (.ok (tracker.records.findBySignature sig.signature), tracker) := rfl
  rw [visit, bind_eq, eval_bind_ok hlookup]
  cases hfound : tracker.records.findBySignature sig.signature with
  | some row =>
      exact Or.inl (eval_map _ some tracker)
  | none =>
      refine Or.inr ⟨rfl, ?_⟩
      simp only [bind_eq, eval_bind, eval_compute]
      cases sig.details with
      | error message => exact Or.inl rfl
      | ok txDetails =>
          cases txDetails with
          | none => exact Or.inl rfl
          | some fee =>
              -- The new record may be refused, and then nothing changes.
              cases hsave : tracker.records.save (sig.row fee) false with
              | error message =>
                  simp only [eval_bind, create_refused hsave, pure_eq]
                  exact Or.inl trivial
              | ok records =>
                  refine Or.inr ⟨fee, records, hsave, ?_⟩
                  simp only [eval_bind, create_saved hsave, pure_eq]
                  cases sig.created <;> rfl

/-- A record that is created is not announced as confirmed, and not pending. -/
theorem good_saved (h : Good tracker) {fee : Option ℚ} {records : Records}
    (hsave : tracker.records.save (sig.row fee) false = .ok records) :
    Good (Tracker.hears { tracker with records }
      [transactionCreated (sig.row fee).toTransaction]) := by
  have hcount : ∀ signature, (Tracker.hears { tracker with records }
      [transactionCreated (sig.row fee).toTransaction]).confirmations signature =
        tracker.confirmations signature :=
    fun signature => List.countP_append.trans (Nat.add_zero _)
  refine ⟨⟨h.lasting.final, fun signature => ?_⟩, fun row hrow hpending => ?_⟩
  · rw [hcount]
    exact h.lasting.once signature
  · rw [hcount]
    have hrows : row ∈ tracker.records.table.rows ++ [sig.row fee] :=
      Records.rows_save hsave ▸ hrow
    -- The new record is saved with a final status, so it is not pending.
    rcases List.mem_append.mp hrows with hold | hone
    · exact h.pending row hold hpending
    · rw [List.mem_singleton] at hone
      subst hone
      exfalso
      revert hpending
      rw [Visit.row]
      split <;> exact fun h => nomatch h

theorem lasting_visit (h : Good tracker) :
    Lasting ((visit sig).eval tracker).2 ↔ sig.reply.Agrees sig.signature tracker := by
  rcases visit_cases tracker sig with hlook | ⟨hnone, hrest⟩
  · rw [hlook]
    exact lasting_updateTransactionStatus h
  · have hagrees : sig.reply.Agrees sig.signature tracker :=
      fun row _ hrow => nomatch hnone.symm.trans hrow
    refine iff_of_true ?_ hagrees
    rcases hrest with hsame | ⟨fee, records, hsave, hsaved⟩
    · rw [hsame]
      exact h.lasting
    · rw [hsaved]
      exact (good_saved h hsave).lasting

theorem good_visit (h : Good tracker) (hagrees : sig.reply.Agrees sig.signature tracker) :
    Good ((visit sig).eval tracker).2 := by
  rcases visit_cases tracker sig with hlook | ⟨-, hsame | ⟨fee, records, hsave, hsaved⟩⟩
  · rw [hlook]
    exact good_updateTransactionStatus h hagrees
  · rw [hsame]
    exact h
  · rw [hsaved]
    exact good_saved h hsave

/-- What was changed and announced before is not forgotten. -/
structure Extends (later tracker : Tracker) : Prop where
  changes : tracker.changes <+: later.changes
  published : tracker.published <+: later.published

theorem Extends.refl (tracker : Tracker) : Extends tracker tracker :=
  ⟨List.prefix_rfl, List.prefix_rfl⟩

theorem Extends.trans {last : Tracker} (h : Extends last later) (h' : Extends later tracker) :
    Extends last tracker :=
  ⟨h'.changes.trans h.changes, h'.published.trans h.published⟩

/-- What has lasted had lasted before. -/
theorem lasting_of_extends (h : Extends later tracker) (hlater : Lasting later) :
    Lasting tracker :=
  ⟨fun change hchange => hlater.final change (h.changes.subset hchange),
    fun signature => (h.published.sublist.countP_le).trans (hlater.once signature)⟩

theorem extends_visit (tracker : Tracker) (sig : Visit) :
    Extends ((visit sig).eval tracker).2 tracker := by
  -- A known signature is looked at, and an unknown one may be stored.
  rcases visit_cases tracker sig with hlook | ⟨-, hsame | ⟨fee, records, -, hsaved⟩⟩
  · rw [hlook]
    rcases updateTransactionStatus_cases tracker sig.signature sig.reply with
      ⟨hsame, -⟩ | ⟨row, blockchainStatus, -, -, -, hlater⟩
    · rw [hsame]
      exact Extends.refl tracker
    · rw [hlater]
      exact ⟨List.prefix_append ..,
        (List.prefix_append ..).trans (List.prefix_append ..)⟩
  · rw [hsame]
    exact Extends.refl tracker
  · rw [hsaved]
    exact ⟨List.prefix_rfl, List.prefix_append ..⟩

/-- What comes of the first visit, and then of the others if it returns. -/
theorem visits_cons (tracker : Tracker) (sig : Visit) (signatures : List Visit) :
    (∃ transaction later, (visit sig).eval tracker = (.ok transaction, later) ∧
      ((visits (sig :: signatures)).eval tracker).2 = ((visits signatures).eval later).2) ∨
    (∃ message later, (visit sig).eval tracker = (.error message, later) ∧
      ((visits (sig :: signatures)).eval tracker).2 = later) := by
  rw [visits, bind_eq, eval_bind]
  rcases (visit sig).eval tracker with ⟨answer, later⟩
  cases answer with
  | error message => exact Or.inr ⟨message, later, rfl, rfl⟩
  | ok transaction =>
      exact Or.inl ⟨transaction, later, rfl, eval_map _ (transaction.toList ++ ·) later⟩

theorem extends_visits (signatures : List Visit) (tracker : Tracker) :
    Extends ((visits signatures).eval tracker).2 tracker := by
  induction signatures generalizing tracker with
  | nil => exact Extends.refl tracker
  | cons sig signatures ih =>
      have hone := extends_visit tracker sig
      -- The call goes on after a visit that went through.
      rcases visits_cons tracker sig signatures with
        ⟨transaction, later, hvisit, hrest⟩ | ⟨message, later, hvisit, hrest⟩
      · rw [hvisit] at hone
        rw [hrest]
        exact (ih later).trans hone
      · rw [hvisit] at hone
        rw [hrest]
        exact hone

/-- Final statuses last over a history exactly when every answer on the way agrees
    with the record it is about. -/
theorem lasting_visits (signatures : List Visit) (h : Good tracker) :
    (Lasting ((visits signatures).eval tracker).2 ↔ AllAgree signatures tracker) ∧
      (AllAgree signatures tracker → Good ((visits signatures).eval tracker).2) := by
  induction signatures generalizing tracker with
  | nil => exact ⟨iff_of_true h.lasting trivial, fun _ => h⟩
  | cons sig signatures ih =>
      have hone : Lasting ((visit sig).eval tracker).2 ↔ sig.reply.Agrees sig.signature tracker :=
        lasting_visit h
      have hgood : sig.reply.Agrees sig.signature tracker → Good ((visit sig).eval tracker).2 :=
        good_visit h
      rcases visits_cons tracker sig signatures with
        ⟨transaction, later, hvisit, hrest⟩ | ⟨message, later, hvisit, hrest⟩
      · rw [hvisit] at hone hgood
        rw [hrest]
        constructor
        · constructor
          · intro hlasting
            -- What lasts to the end has lasted after the first visit.
            have hagrees := hone.mp (lasting_of_extends (extends_visits signatures later) hlasting)
            refine ⟨hagrees, fun transaction' later' hvisit' => ?_⟩
            cases hvisit.symm.trans hvisit'
            exact (ih (hgood hagrees)).1.mp hlasting
          · rintro ⟨hagrees, hothers⟩
            exact (ih (hgood hagrees)).1.mpr (hothers transaction later hvisit)
        · rintro ⟨hagrees, hothers⟩
          exact (ih (hgood hagrees)).2 (hothers transaction later hvisit)
      · -- The history ends with the exception.
        rw [hvisit] at hone hgood
        rw [hrest]
        refine ⟨hone.trans ⟨fun hagrees => ⟨hagrees, fun _ _ hvisit' => ?_⟩, fun hall => hall.1⟩,
          fun hall => hgood hall.1⟩
        exact nomatch hvisit.symm.trans hvisit'

/-! ### Runs of calls -/

/-- What a history leaves, if the address and its signatures can be had. -/
theorem history_cases (tracker : Tracker) (publicKey : Except String Unit)
    (signatures : Except String (List Visit)) :
    (∃ sigs, publicKey = .ok () ∧ signatures = .ok sigs ∧
      (step tracker (.getTransactionHistory publicKey signatures)).2 =
        ((visits sigs).eval tracker).2) ∨
    (¬(publicKey = .ok () ∧ ∃ sigs, signatures = .ok sigs) ∧
      (step tracker (.getTransactionHistory publicKey signatures)).2 = tracker) := by
  rw [step, Call.program, getTransactionHistory, eval_reraise, bind_eq, eval_bind, eval_compute]
  cases publicKey with
  | error message => exact Or.inr ⟨fun h => (nomatch h.1), rfl⟩
  | ok u =>
      cases signatures with
      | error message => exact Or.inr ⟨fun ⟨_, sigs, h⟩ => (nomatch h), rfl⟩
      | ok sigs => exact Or.inl ⟨sigs, rfl, rfl, rfl⟩

theorem step_updateTransactionStatus (tracker : Tracker) (signature : String) (reply : Reply) :
    (step tracker (.updateTransactionStatus signature reply)).2 =
      ((updateTransactionStatus signature reply).eval tracker).2 :=
  eval_map _ ([·]) tracker

/-- A call keeps final statuses exactly when the answers agree with the records. -/
theorem lasting_step (call : Call) (h : Good tracker) :
    (Lasting (step tracker call).2 ↔ call.Agrees tracker) ∧
      (call.Agrees tracker → Good (step tracker call).2) := by
  cases call with
  | updateTransactionStatus signature reply =>
      rw [step_updateTransactionStatus]
      exact ⟨lasting_updateTransactionStatus h, good_updateTransactionStatus h⟩
  | getTransactionHistory publicKey signatures =>
      -- A history is its visits, one after the other.
      rcases history_cases tracker publicKey signatures with
        ⟨sigs, rfl, rfl, hlater⟩ | ⟨hnone, hlater⟩
      · rw [hlater]
        have hagrees : Call.Agrees tracker (.getTransactionHistory (.ok ()) (.ok sigs)) ↔
            AllAgree sigs tracker :=
          ⟨fun hall => hall rfl sigs rfl, fun hall _ sigs' hsigs => Except.ok.inj hsigs ▸ hall⟩
        rw [hagrees]
        exact lasting_visits sigs h
      · rw [hlater]
        refine ⟨iff_of_true h.lasting fun hkey sigs hsigs => ?_, fun _ => h⟩
        exact absurd ⟨hkey, sigs, hsigs⟩ hnone

end

/-- Along every run of both methods a final status is final and announced as
    confirmed once, exactly when no answer takes a final status back and no failed
    record is confirmed again. -/
theorem lasting_iff (records : Records) (calls : List Call) :
    Along step (fun _ _ _ later => Lasting later) calls { records } ↔
      Along step (fun call tracker _ _ => call.Agrees tracker) calls { records } := by
  have hstart : Good { records } :=
    ⟨⟨fun change h => (nomatch h), fun _ => Nat.zero_le 1⟩, fun _ _ _ => rfl⟩
  exact along_iff (fun call tracker h => (lasting_step call h).1)
    (fun call tracker h => (lasting_step call h).2) hstart

/-- A pending record, which the network has confirmed, and a node that lags. -/
def sampleRecords : Records where
  table := ⟨[{ signature := "signature", type := .TRANSFER }], List.nodup_singleton _⟩
  signatures := List.nodup_singleton _

/-- The network says that much of the signature of the witness. -/
def answered (confirmationStatus : ConfirmationStatus) : Call :=
  .updateTransactionStatus "signature"
    { signatureStatus := .ok (some { confirmationStatus := some confirmationStatus }) }

theorem confirmed_taken_back : ¬∀ (records : Records) (calls : List Call),
    Along step (fun _ _ _ later => Lasting later) calls { records } := by
  intro h
  have hlasting := (h sampleRecords [answered .finalized, answered .processed]).2.1
  -- The second change takes the record from confirmed to pending.
  exact hlasting.final ⟨"signature", .CONFIRMED, .PENDING⟩ (by decide) (by decide) rfl

end Statuses

end Transactions

end SvmCourse
