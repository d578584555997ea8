import SvmCourse.Transactions.Records

/-!
# Sending Transactions

Five methods send a transaction to the network and keep a record of it. They
are alike: one block reads the key, builds the transaction, sends it, saves a
confirmed record and publishes two events, and whatever goes wrong in that
block is taken for a transaction that was not sent. Then a failed record is
saved, two other events are published, and an exception is raised.

What the outside decides comes with the call: what a key is, what an address
is, whether token accounts can be had, how the network answers, which ids the
database gives, and how every publication ends. A save works unless the table
refuses the row.

A publication may fail although the transaction was sent, because it flushes a
full buffer. Then the confirmed record stays and a failed one is added.

## Main definitions

* `Outside`: How everything ends that is not decided here.
* `Method`: What tells the five methods apart.
* `send`: What they share.
* `Request`: A call of one of the five methods.
* `Agrees`: The table says what happened on the network.
* `Recorded`: The record of what happened can be saved and published.

## Theorems

* `create_cases`: What comes of the record of a transaction.
* `records_reject`: What is left when the block is given up.
* `agrees_iff`: When the table says what happened.
-/

namespace SvmCourse

namespace Transactions

open Core Core.Prog

/-- How the keys, the addresses, the network, the database and the publications
    behave. The ids and the publications are those of the confirmed record, the
    publications in order, and those of the failed record. -/
structure Outside where
  fromSecretKey : String → Except String String
  publicKey : String → Except String Unit
  transfer : ℚ → Except String Unit
  tokenAccount : String → String → Except String Unit
  tokenAddress : String → String → Except String Unit
  fromBase64 : String → Except String Unit
  computeUnitLimit : ℚ → Except String Unit
  sendAndConfirmTransaction : Except String String
  id : Nat
  created : Except String Unit
  confirmed : Except String Unit
  failedId : Nat
  failedCreated : Except String Unit
  failed : Except String Unit
  now : Nat

/-- What tells the methods apart: the key they are given, how they build their
    transaction, the rows they save, and the text of their exception. The rows
    are given the address of the key, if it could be read, and are confirmed
    under the signature and failed. -/
structure Method where
  privateKey : String
  build : Outside → String → Except String Unit
  confirmedRow : String → String → Transaction
  failedRow : Option String → String → String → Transaction
  failure : String
  confirmed_status : ∀ address signature,
    (confirmedRow address signature).status = .CONFIRMED := by intros; rfl
  confirmed_signature : ∀ address signature,
    (confirmedRow address signature).signature = signature := by intros; rfl
  failed_status : ∀ address signature error,
    (failedRow address signature error).status = .FAILED := by intros; rfl

/-- Reading the key, building the transaction and sending it. -/
def Method.sent (method : Method) (outside : Outside) : Except String (String × String) := do
  let address ← outside.fromSecretKey method.privateKey
  method.build outside address
  let signature ← outside.sendAndConfirmTransaction
  return (address, signature)

/-- The key can be read and the transaction built, so the network is asked. -/
def Method.Reaches (method : Method) (outside : Outside) : Prop :=
  ∃ address, outside.fromSecretKey method.privateKey = .ok address ∧
    method.build outside address = .ok ()

/-- The record of a transaction that the network took. -/
def Method.confirmedRecord (method : Method) (outside : Outside) (address signature : String) :
    Record :=
  numbered (method.confirmedRow address signature) outside.id

/-- The record of a transaction that is taken not to have been sent. The signature is
    made up. -/
def Method.failedRecord (method : Method) (outside : Outside) (error : String) : Record :=
  let address := (outside.fromSecretKey method.privateKey).toOption
  numbered (method.failedRow address s!"failed-{outside.now}" error) outside.failedId

/-- What follows when the network took the transaction. -/
def Method.confirm (method : Method) (outside : Outside) (address signature : String) :
    Service String := do
  let savedTransaction ←
    create (method.confirmedRecord outside address signature) false outside.created
  publish (transactionConfirmed savedTransaction.toTransaction) outside.confirmed
  pure signature

/-- What follows when something went wrong. -/
def Method.reject (method : Method) (outside : Outside) (error : String) : Service String := do
  let failedTransaction ← create (method.failedRecord outside error) false outside.failedCreated
  publish (transactionFailed failedTransaction.toTransaction error) outside.failed
  .raise s!"{method.failure}: {error}"

/-- The handler does not ask how far the block got. -/
def send (method : Method) (outside : Outside) : Service String :=
  Prog.rescue
    (do
      let sent ← compute (method.sent outside)
      method.confirm outside sent.1 sent.2)
    fun error => method.reject outside error

/-! ### The methods -/

/-- Send a transfer. -/
def sendTransfer (fromPrivateKey toAddress : String) (amount : ℚ) : Method where
  privateKey := fromPrivateKey
  build outside _ := do
    outside.publicKey toAddress
    outside.transfer amount
  confirmedRow address signature :=
    { signature, type := .TRANSFER, status := .CONFIRMED, fromAddress := some address
      toAddress := some toAddress, amount }
  failedRow address signature error :=
    { signature, type := .TRANSFER, status := .FAILED
      fromAddress := some (address.getD "unknown")
      toAddress := some toAddress, amount, metadata := [("error", .text error)] }
  failure := "Failed to send transfer"

/-- Send tokens. -/
def sendTokenTransfer (fromPrivateKey toAddress mintAddress : String) (amount : ℚ) : Method where
  privateKey := fromPrivateKey
  build outside address := do
    outside.publicKey toAddress
    outside.publicKey mintAddress
    outside.tokenAccount mintAddress address
    outside.tokenAccount mintAddress toAddress
    outside.transfer amount
  confirmedRow address signature :=
    { signature, type := .TOKEN_TRANSFER, status := .CONFIRMED, fromAddress := some address
      toAddress := some toAddress, amount
      metadata := [("mintAddress", .text mintAddress), ("tokenAmount", .number amount)] }
  failedRow address signature error :=
    { signature, type := .TOKEN_TRANSFER, status := .FAILED
      fromAddress := some (address.getD "unknown")
      toAddress := some toAddress, amount
      metadata := [("mintAddress", .text mintAddress), ("error", .text error)] }
  failure := "Failed to send token transfer"

/-- An account as the request names it. -/
structure AccountMeta where
  pubkey : String
  isSigner : Bool
  isWritable : Bool

/-- An instruction as the request names it. -/
structure Instruction where
  programId : String
  accounts : List AccountMeta
  data : String

/-- An instruction whose addresses and data can be read. -/
def Instruction.build (instruction : Instruction) (outside : Outside) : Except String Unit := do
  outside.publicKey instruction.programId
  for account in instruction.accounts do
    outside.publicKey account.pubkey
  outside.fromBase64 instruction.data

/-- Send several instructions in one transaction. -/
def createMultiInstructionTransaction (privateKey : String) (instructions : List Instruction) :
    Method where
  privateKey := privateKey
  build outside _ := do
    for instruction in instructions do
      instruction.build outside
  confirmedRow _ signature :=
    { signature, type := .PROGRAM_INTERACTION, status := .CONFIRMED
      metadata := [("instructionCount", .number instructions.length)] }
  failedRow _ signature error :=
    { signature, type := .PROGRAM_INTERACTION, status := .FAILED
      metadata := [("error", .text error), ("instructionCount", .number instructions.length)] }
  failure := "Failed to create multi-instruction transaction"

/-- The parameters a kind of operation does not use are whatever they are. -/
structure Operation where
  type : String
  toAddress : String := ""
  mintAddress : String := ""
  amount : ℚ := 0

/-- The instructions of an operation, which fail where the text is not an address. The
    payer is the one whose key signs. -/
def Operation.build (operation : Operation) (outside : Outside) (payer : String) :
    Except String Unit :=
  match operation.type with
  | "transfer" => do
    outside.publicKey operation.toAddress
    outside.transfer operation.amount
  | "token_transfer" => do
    outside.publicKey operation.mintAddress
    outside.publicKey operation.toAddress
    -- Here the accounts are only computed, and not created where they are missing.
    outside.tokenAddress operation.mintAddress payer
    outside.tokenAddress operation.mintAddress operation.toAddress
    outside.transfer operation.amount
  | "token_mint" => throw "Mint operations in batches not yet implemented"
  | type => throw s!"Unsupported operation type: {type}"

/-- Send several operations in one transaction. -/
def createBatchedTransaction (privateKey : String) (operations : List Operation) : Method where
  privateKey := privateKey
  build outside address := do
    for operation in operations do
      operation.build outside address
  confirmedRow _ signature :=
    { signature, type := .TRANSFER, status := .CONFIRMED
      metadata := [("operationCount", .number operations.length), ("batch", .flag true)] }
  failedRow _ signature error :=
    { signature, type := .TRANSFER, status := .FAILED
      metadata := [("error", .text error), ("operationCount", .number operations.length),
        ("batch", .flag true)] }
  failure := "Failed to create batched transaction"

/-- Send an invocation of a program. -/
def sendProgramInvocation (privateKey programId data : String) (accounts : List AccountMeta)
    (maxComputeUnits : ℚ := 200000) : Method where
  privateKey := privateKey
  build outside _ := do
    outside.computeUnitLimit maxComputeUnits
    Instruction.build ⟨programId, accounts, data⟩ outside
  confirmedRow _ signature :=
    { signature, type := .PROGRAM_INTERACTION, status := .CONFIRMED
      metadata := [("programId", .text programId), ("instructionData", .text data),
        ("accountCount", .number accounts.length), ("maxComputeUnits", .number maxComputeUnits)] }
  failedRow _ signature error :=
    { signature, type := .PROGRAM_INTERACTION, status := .FAILED
      metadata := [("programId", .text programId), ("instructionData", .text data),
        ("accountCount", .number accounts.length), ("maxComputeUnits", .number maxComputeUnits),
        ("error", .text error)] }
  failure := "Failed to send program invocation"

/-- A call of one of the methods. -/
inductive Request where
  | sendTransfer (fromPrivateKey toAddress : String) (amount : ℚ)
  | sendTokenTransfer (fromPrivateKey toAddress mintAddress : String) (amount : ℚ)
  | createMultiInstructionTransaction (privateKey : String) (instructions : List Instruction)
  | createBatchedTransaction (privateKey : String) (operations : List Operation)
  | sendProgramInvocation (privateKey programId data : String) (accounts : List AccountMeta)
      (maxComputeUnits : ℚ)

/-- The method that serves a request. -/
def Request.method : Request → Method
  | .sendTransfer fromPrivateKey toAddress amount =>
    Transactions.sendTransfer fromPrivateKey toAddress amount
  | .sendTokenTransfer fromPrivateKey toAddress mintAddress amount =>
    Transactions.sendTokenTransfer fromPrivateKey toAddress mintAddress amount
  | .createMultiInstructionTransaction privateKey instructions =>
    Transactions.createMultiInstructionTransaction privateKey instructions
  | .createBatchedTransaction privateKey operations =>
    Transactions.createBatchedTransaction privateKey operations
  | .sendProgramInvocation privateKey programId data accounts maxComputeUnits =>
    Transactions.sendProgramInvocation privateKey programId data accounts maxComputeUnits

/-! ### What the table says -/

section

variable {method : Method} {outside : Outside} {tracker : Tracker}

/-- If the network took the transaction, the call returns its signature and
    leaves one more record, which is confirmed under it. If not, the call leaves
    one more record, which has failed. -/
def Agrees (method : Method) (outside : Outside) (tracker : Tracker)
    (result : Except String String × Tracker) : Prop :=
  match method.sent outside with
  | .ok (_, signature) =>
    result.1 = .ok signature ∧
      ∃ row, result.2.records.table.rows = tracker.records.table.rows ++ [row] ∧
        row.status = .CONFIRMED ∧ row.signature = signature
  | .error _ =>
    ∃ row, result.2.records.table.rows = tracker.records.table.rows ++ [row] ∧ row.status = .FAILED

/-- The table accepts the record of what happened, and both events about a
    confirmed one are published. -/
def Recorded (method : Method) (outside : Outside) (tracker : Tracker) : Prop :=
  match method.sent outside with
  | .ok (address, signature) =>
    tracker.records.Accepts (method.confirmedRecord outside address signature) ∧
      outside.created = .ok () ∧ outside.confirmed = .ok ()
  | .error error => tracker.records.Accepts (method.failedRecord outside error)

/-- What was sent has reached the network. -/
theorem reaches_of_sent {sent : String × String} (h : method.sent outside = .ok sent) :
    method.Reaches outside := by
  unfold Method.sent at h
  cases haddress : outside.fromSecretKey method.privateKey with
  | error e => rw [haddress] at h; cases h
  | ok address =>
      rw [haddress] at h
      refine ⟨address, haddress, ?_⟩
      -- The network is only asked once the transaction has been built.
      cases hbuild : method.build outside address with
      | error e =>
          change (method.build outside address >>= fun _ => _) = .ok sent at h
          rw [hbuild] at h
          cases h
      | ok u => rfl

/-- A record is refused and nothing is left, or it is accepted and added. -/
theorem create_cases (tracker : Tracker) (row : Record) (outcome : Except String Unit) :
    (¬tracker.records.Accepts row ∧
      ∃ e, (create row false outcome).eval tracker = (.error e, tracker)) ∨
    tracker.records.Accepts row ∧ ∃ later : Tracker,
      (create row false outcome).eval tracker = (outcome.map fun _ => row, later) ∧
      later.records.table.rows = tracker.records.table.rows ++ [row] := by
  cases hsave : tracker.records.save row false with
  | error e =>
      refine Or.inl ⟨fun haccepts => ?_, e, create_refused hsave outcome⟩
      rcases Records.save_iff.mpr haccepts with ⟨records, hsaved⟩
      cases hsave.symm.trans hsaved
  | ok records =>
      exact Or.inr ⟨Records.save_iff.mp ⟨records, hsave⟩, _, create_saved hsave outcome,
        Records.rows_save hsave⟩

/-- Giving up raises an exception. It leaves a failed record if the table accepts
    it, and nothing if not. -/
theorem records_reject (method : Method) (outside : Outside) (tracker : Tracker)
    (error : String) :
    (∃ e, ((method.reject outside error).eval tracker).1 = .error e) ∧
      ((tracker.records.Accepts (method.failedRecord outside error) ∧
          ∃ row, ((method.reject outside error).eval tracker).2.records.table.rows =
            tracker.records.table.rows ++ [row] ∧ row.status = .FAILED) ∨
        (¬tracker.records.Accepts (method.failedRecord outside error) ∧
          ((method.reject outside error).eval tracker).2 = tracker)) := by
  have hstatus : (method.failedRecord outside error).status = .FAILED :=
    method.failed_status ..
  rcases create_cases tracker (method.failedRecord outside error) outside.failedCreated with
    ⟨hrefused, e, hcreate⟩ | ⟨haccepts, later, hcreate, hrows⟩
  · rw [Method.reject, bind_eq, eval_bind_error hcreate]
    exact ⟨⟨e, rfl⟩, Or.inr ⟨hrefused, rfl⟩⟩
  · cases hcreated : outside.failedCreated with
    | error e =>
        rw [hcreated] at hcreate
        rw [Method.reject, hcreated, bind_eq, eval_bind_error hcreate]
        exact ⟨⟨e, rfl⟩, Or.inl ⟨haccepts, _, hrows, hstatus⟩⟩
    | ok u =>
        -- The record is stored whether or not the event is published.
        rw [hcreated] at hcreate
        rw [Method.reject, hcreated, bind_eq, eval_bind_ok hcreate, bind_eq, eval_bind,
          eval_publish]
        cases outside.failed with
        | error e => exact ⟨⟨e, rfl⟩, Or.inl ⟨haccepts, _, hrows, hstatus⟩⟩
        | ok u => exact ⟨⟨_, rfl⟩, Or.inl ⟨haccepts, _, hrows, hstatus⟩⟩

/-- With the record accepted and both events published the signature is returned,
    and otherwise there is an exception. -/
theorem confirm_cases (method : Method) (outside : Outside) (tracker : Tracker)
    (address signature : String) :
    (tracker.records.Accepts (method.confirmedRecord outside address signature) ∧
        outside.created = .ok () ∧ outside.confirmed = .ok ()) ∧
      (∃ later : Tracker,
        (method.confirm outside address signature).eval tracker = (.ok signature, later) ∧
        later.records.table.rows =
          tracker.records.table.rows ++ [method.confirmedRecord outside address signature]) ∨
    ¬(tracker.records.Accepts (method.confirmedRecord outside address signature) ∧
        outside.created = .ok () ∧ outside.confirmed = .ok ()) ∧
      ∃ e later, (method.confirm outside address signature).eval tracker = (.error e, later) := by
  rw [Method.confirm, bind_eq]
  have hcases := create_cases tracker (method.confirmedRecord outside address signature)
    outside.created
  rcases hcases with
    ⟨hrefused, e, hcreate⟩ | ⟨haccepts, later, hcreate, hrows⟩
  · exact Or.inr ⟨fun h => hrefused h.1, e, _, eval_bind_error hcreate⟩
  · -- The record is stored, and two events are still to be published.
    cases hcreated : outside.created with
    | error e =>
        rw [hcreated] at hcreate
        exact Or.inr ⟨fun h => (nomatch h.2.1), e, _, eval_bind_error hcreate⟩
    | ok u =>
        rw [hcreated] at hcreate
        rw [eval_bind_ok hcreate, bind_eq, eval_bind, eval_publish]
        cases hconfirmed : outside.confirmed with
        | error e => exact Or.inr ⟨fun h => (nomatch h.2.2), e, _, rfl⟩
        | ok u => exact Or.inl ⟨⟨haccepts, rfl, rfl⟩, _, rfl, hrows⟩

/-- What is not sent is rejected. -/
theorem send_unsent {error : String} (h : method.sent outside = .error error) :
    (send method outside).eval tracker = (method.reject outside error).eval tracker := by
  rw [send, eval_rescue, h]
  rfl

theorem send_sent {sent : String × String} (h : method.sent outside = .ok sent) :
    (send method outside).eval tracker =
      ((method.confirm outside sent.1 sent.2).rescue
        fun error => method.reject outside error).eval tracker := by
  rw [send, h]
  rfl

/-- The table says what happened on the network if and only if the record of it is
    accepted and, if there was anything to confirm, both events are published. -/
theorem agrees_iff (request : Request) (outside : Outside) (tracker : Tracker) :
    Agrees request.method outside tracker ((send request.method outside).eval tracker) ↔
      Recorded request.method outside tracker := by
  generalize request.method = method
  rw [Agrees, Recorded]
  cases hsent : method.sent outside with
  | error error =>
      rw [send_unsent hsent]
      dsimp only
      rcases (records_reject method outside tracker error).2 with
        ⟨haccepts, hrow⟩ | ⟨hrefused, hsame⟩
      · exact iff_of_true hrow haccepts
      · rw [hsame]
        refine iff_of_false ?_ hrefused
        rintro ⟨row, hrows, -⟩
        exact List.cons_ne_nil row [] (List.self_eq_append_right.mp hrows)
  | ok sent =>
      rcases sent with ⟨address, signature⟩
      rw [send_sent hsent, eval_rescue]
      dsimp only
      rcases confirm_cases method outside tracker address signature with
        ⟨hrecorded, later, hconfirm, hrows⟩ | ⟨hmissing, e, later, hconfirm⟩
      · rw [hconfirm]
        exact iff_of_true ⟨rfl, _, hrows, method.confirmed_status .., method.confirmed_signature ..⟩
          hrecorded
      · rw [hconfirm]
        refine iff_of_false ?_ hmissing
        -- The call raises an exception although the transaction was sent.
        rintro ⟨hreturned, -⟩
        rcases (records_reject method outside later e).1 with ⟨e', hrejected⟩
        cases hrejected.symm.trans hreturned

end

/-- The network takes everything, and the buffer is full while the broker is down, so
    no record can be published. -/
def brokerDown : Outside where
  fromSecretKey _ := .ok "payer"
  publicKey _ := .ok ()
  transfer _ := .ok ()
  tokenAccount _ _ := .ok ()
  tokenAddress _ _ := .ok ()
  fromBase64 _ := .ok ()
  computeUnitLimit _ := .ok ()
  sendAndConfirmTransaction := .ok "signature"
  id := 0
  created := .error "broker not available"
  confirmed := .ok ()
  failedId := 1
  failedCreated := .error "broker not available"
  failed := .ok ()
  now := 0

/-- The table accepts the records of the call, whatever comes of it. -/
def Saves (method : Method) (outside : Outside) (tracker : Tracker) : Prop :=
  (∀ address signature,
      tracker.records.Accepts (method.confirmedRecord outside address signature)) ∧
    ∀ error, tracker.records.Accepts (method.failedRecord outside error)

theorem not_agrees : ¬ ∀ (request : Request) (outside : Outside) (tracker : Tracker),
    Saves request.method outside tracker →
      Agrees request.method outside tracker ((send request.method outside).eval tracker) := by
  intro h
  have hfits : Whole 64 1 := by decide
  have haccepts : ∀ row : Record, row.amount = 1 → row.fee = none → row.slot = none →
      Records.empty.Accepts row := by
    intro row hamount hfee hslot
    refine ⟨⟨hamount ▸ hfits, fun _ hsome => ?_, fun _ hsome => ?_⟩, rfl, List.not_mem_nil⟩
    · cases hfee.symm.trans hsome
    · cases hslot.symm.trans hsome
  have hreturned := (h (.sendTransfer "key" "to" 1) brokerDown { records := .empty }
    ⟨fun _ _ => haccepts _ rfl rfl rfl, fun _ => haccepts _ rfl rfl rfl⟩).1
  exact nomatch hreturned

end Transactions

end SvmCourse
