import SvmCourse.Core.Beside
import SvmCourse.Cpi.Permissions
import SvmCourse.Svm.Executions

/-!
# Cross-Program Calls

A call from one program to another is permitted or denied, recorded as pending,
executed by the runtime, and then recorded as successful or failed. The runtime
raises when the program is not stored or its record cannot be saved. Whatever
else goes wrong it catches itself and writes into its own record, and what it
returns then is taken for a success.

No signer is handed to the runtime. It asks for the signer's key for every
account of the call, so a call with accounts is never sent. One without accounts
is handed to the network, whose library throws without a signer as well; that
the network accepts it all the same is left open as one of its answers.

What the numeric columns of the runtime hold is a parameter. As `bigint` columns
they refuse the record of a call that was sent, whose cost is a tenth.

Which of several rows is found, and what the network answers, comes with the
call. Whether a text is a public key is a parameter. The instruction data is the
text it is stored as.

## Main definitions

* `CpiInstruction`, `CpiInvocation`: The rows.
* `executeCpi`: One call.
* `Denied`: The call is not permitted.
* `Reported`: A record says what the runtime says.

## Theorems

* `executeCpi_ends`: What is stored of a call.
* `executeCpi_truthful_iff`: When records say what the runtime says.
-/

namespace SvmCourse

namespace Cpi

namespace Invocations

open Core Core.Prog Permissions

/-- An account as the request names it. -/
structure AccountMeta where
  pubkey : String
  isSigner : Bool
  isWritable : Bool
  deriving DecidableEq

/-- A row of the instructions, of which one program may call another. -/
structure CpiInstruction where
  programId : String
  callerProgramId : String
  methodName : Option String := none
  requiresPermission : Bool := false
  permissionLevel : Option String := none
  isActive : Bool := true
  deriving DecidableEq

/-- The statuses of an invocation. -/
inductive InvocationStatus where
  | pending | success | failed
  deriving DecidableEq, Repr

/-- A row of the invocations. -/
structure CpiInvocation where
  transactionId : String
  callerProgramId : String
  targetProgramId : String
  instructionName : Option String
  instructionData : String
  accounts : Option (List AccountMeta)
  status : InvocationStatus
  errorMessage : Option String := none
  gasUsed : Option ℚ := none
  deriving DecidableEq

/-- The three tables of the CPI service. -/
structure Tables where
  instructions : List CpiInstruction := []
  permissions : List CpiPermission := []
  invocations : List CpiInvocation := []

/-- The tables of the runtime and those of the calls. -/
abbrev CpiWorld := Svm.World × Tables

/-- A call of the service: reads and writes one after the other, or an error. -/
abbrev Service := Prog CpiWorld String

/-- One access to the tables. -/
def query {α : Type} (act : CpiWorld → α × CpiWorld) : Service α := Prog.perform "StoreError" act

/-- What comes of a program, whether it raises or not. -/
def attempt {α : Type} (p : Service α) : Service (Except String α) :=
  (p.bind fun a => .done (.ok a)).rescue fun message => .done (.error message)

/-- The body of a request. -/
structure CreateCpiInvocationDto where
  transactionId : String
  callerProgramId : String
  targetProgramId : String
  instructionName : Option String := none
  instructionData : String
  accounts : Option (List AccountMeta) := none

/-- Besides the request, which rows are found, what the clock shows, where the
    runtime records the execution, and what the network answers. -/
structure CpiCall where
  dto : CreateCpiInvocationDto
  instructionChoice : Nat := 0
  permissionChoice : Nat := 0
  now : Int := 0
  place : Nat := 0
  meterChoice : Nat := 0
  send : Except String String
  slot : Except String Int

/-! ### One call -/

/-- The conditions of the lookup. Without a name, instructions of every name
    match. -/
def CreateCpiInvocationDto.Matches (dto : CreateCpiInvocationDto)
    (instruction : CpiInstruction) : Bool :=
  instruction.programId = dto.targetProgramId &&
    instruction.callerProgramId = dto.callerProgramId &&
    restricts dto.instructionName instruction.methodName &&
    instruction.isActive = true

namespace CpiCall

/-- The instruction that is found. -/
def instruction (call : CpiCall) (tables : Tables) : Option CpiInstruction :=
  pick (tables.instructions.filter call.dto.Matches) call.instructionChoice

/-- What permission is asked for. An empty level counts as none. -/
def permissionQuery (call : CpiCall) (instruction : CpiInstruction) : PermissionQuery where
  callerProgramId := call.dto.callerProgramId
  targetProgramId := call.dto.targetProgramId
  permissionType := (instruction.permissionLevel.filter (· ≠ "")).getD "invoke"

/-- Whether the caller has what the instruction asks for. -/
def hasPermission (call : CpiCall) (instruction : CpiInstruction) (tables : Tables) : Bool :=
  checkPermission tables.permissions call.now call.permissionChoice
    (call.permissionQuery instruction)

/-- The addresses of the accounts in the request. -/
def accounts (call : CpiCall) : List String :=
  (call.dto.accounts.map fun accounts => accounts.map AccountMeta.pubkey).getD []

/-- Building the transaction. The first account is read, and then the key of the
    signer, which is missing. -/
def transaction (publicKey : String → Except String Unit) (call : CpiCall) :
    Except String Unit := do
  publicKey call.dto.targetProgramId
  match call.accounts with
  | [] => pure ()
  | account :: _ =>
    publicKey account
    throw "Cannot read properties of null (reading 'publicKey')"

/-- What the runtime is asked to execute. -/
def request (publicKey : String → Except String Unit) (call : CpiCall) : Svm.ExecuteProgramDto where
  programId := call.dto.targetProgramId
  maxComputeUnits := .value 200000
  choice := call.meterChoice
  transaction := call.transaction publicKey
  send := call.send
  slot := call.slot

/-- The row that is written before anything is executed. -/
def pendingInvocation (call : CpiCall) : CpiInvocation where
  transactionId := call.dto.transactionId
  callerProgramId := call.dto.callerProgramId
  targetProgramId := call.dto.targetProgramId
  instructionName := call.dto.instructionName
  instructionData := call.dto.instructionData
  accounts := call.dto.accounts
  status := .pending

/-- What is recorded in the end. Whatever the runtime returned counts as a
    success. -/
def invocation (call : CpiCall) (result : Except String (Option Svm.RuntimeExecution)) :
    CpiInvocation :=
  match result with
  | .ok execution =>
    -- An execution that answers counts as success, whatever its record says.
    { call.pendingInvocation with
      status := .success
      gasUsed := execution.map Svm.RuntimeExecution.computeUnitsUsed }
  | .error message =>
    { call.pendingInvocation with
      status := .failed
      errorMessage := some message }

end CpiCall

namespace cpiInvocationRepository

/-- The id of an invocation is its place in the table. -/
def insert (invocation : CpiInvocation) : Service Nat :=
  query fun (runtime, tables) => (tables.invocations.length,
    runtime, { tables with invocations := tables.invocations ++ [invocation] })

/-- Write the row at that place. -/
def save (id : Nat) (invocation : CpiInvocation) : Service Unit :=
  query fun (runtime, tables) =>
    ((), runtime, { tables with invocations := tables.invocations.set id invocation })

end cpiInvocationRepository

/-- The execution, and what is returned of it. -/
def runtimeExecution (columns : Svm.Columns) (publicKey : String → Except String Unit)
    (call : CpiCall) : Svm.Service (Option Svm.RuntimeExecution) := do
  Svm.executeProgram columns call.place (call.request publicKey)
  Svm.query fun world => (world.executions call.place, world)

/-- Refuse a call that needs a permission it does not have. -/
def requirePermission (call : CpiCall) : Service Unit := do
  let instruction ← query fun world => (call.instruction world.2, world)
  match instruction with
  | none => pure ()
  | some instruction =>
    if instruction.requiresPermission then do
      let hasPermission ← query fun world => (call.hasPermission instruction world.2, world)
      require hasPermission "Insufficient permissions for CPI call"
    else pure ()

/-- Execute a call: check the permission, write a pending row, execute, and write how
    that ended. -/
def executeCpi (columns : Svm.Columns) (publicKey : String → Except String Unit)
    (call : CpiCall) : Service CpiInvocation := do
  requirePermission call
  let id ← cpiInvocationRepository.insert call.pendingInvocation
  let result ← attempt (runtimeExecution columns publicKey call).beside
  cpiInvocationRepository.save id (call.invocation result)
  pure (call.invocation result)

/-! ### What the record says -/

/-- The instruction that is found asks for a permission that is not found. -/
def Denied (call : CpiCall) (tables : Tables) : Prop :=
  ∃ instruction, call.instruction tables = some instruction ∧
    instruction.requiresPermission = true ∧ call.hasPermission instruction tables = false

/-- The error the runtime reports: the one it raises, or the one in its record. -/
def runtimeError (answer : Except String Unit) (execution : Option Svm.RuntimeExecution) :
    Option String :=
  match answer with
  | .error message => some message
  | .ok _ => execution.bind Svm.RuntimeExecution.errorMessage

/-- An invocation is successful just when the execution is, and otherwise it has
    failed with the error of the runtime. -/
def Reported (answer : Except String Unit) (execution : Option Svm.RuntimeExecution)
    (invocation : CpiInvocation) : Prop :=
  (invocation.status = .success ↔ ∃ e, execution = some e ∧ e.status = .SUCCESS) ∧
    (¬(∃ e, execution = some e ∧ e.status = .SUCCESS) →
      invocation.status = .failed ∧ invocation.errorMessage = runtimeError answer execution)

/-- What is promised of a call: a denial stores nothing, and otherwise one
    invocation is stored, which says what the runtime says. -/
def Truthful (columns : Svm.Columns) (publicKey : String → Except String Unit) (call : CpiCall)
    (world : CpiWorld) : Prop :=
  (Denied call world.2 → (executeCpi columns publicKey call).eval world =
    (.error "Insufficient permissions for CPI call", world)) ∧
  -- Whoever is not denied gets one row more, which reports the execution.
  (¬Denied call world.2 → ∃ invocation,
    ((executeCpi columns publicKey call).eval world).1 = .ok invocation ∧
      ((executeCpi columns publicKey call).eval world).2.2.invocations =
        world.2.invocations ++ [invocation] ∧
      Reported ((Svm.executeProgram columns call.place (call.request publicKey)).eval world.1).1
        (((executeCpi columns publicKey call).eval world).2.1.executions call.place) invocation)

section Ends

variable {columns : Svm.Columns} {publicKey : String → Except String Unit} {call : CpiCall}
  {world : CpiWorld}

theorem requirePermission_denied (h : Denied call world.2) :
    (requirePermission call).eval world =
      (.error "Insufficient permissions for CPI call", world) := by
  rcases h with ⟨instruction, hfound, hrequires, hpermission⟩
  rw [requirePermission, query, bind_eq, eval_bind, eval_perform, hfound]
  simp only [hrequires, if_true, query, bind_eq, eval_bind, eval_perform, hpermission]
  rfl

theorem requirePermission_granted (h : ¬Denied call world.2) :
    (requirePermission call).eval world = (.ok (), world) := by
  rw [requirePermission, query, bind_eq, eval_bind, eval_perform]
  -- Without an instruction, or one that asks for it, no permission is looked for.
  cases hfound : call.instruction world.2 with
  | none => rfl
  | some instruction =>
      cases hrequires : instruction.requiresPermission with
      | false => simp only [hrequires, Bool.false_eq_true, if_false]; rfl
      | true =>
          have hpermission : call.hasPermission instruction world.2 = true := by
            by_contra hnot
            exact h ⟨instruction, hfound, hrequires, by simpa using hnot⟩
          simp only [hrequires, if_true, query, bind_eq, eval_bind, eval_perform, hpermission]
          rfl

theorem eval_attempt {α : Type} (p : Service α) (world : CpiWorld) :
    (attempt p).eval world = (.ok (p.eval world).1, (p.eval world).2) :=
  eval_rescue_done p world

/-- A call that is not denied leaves what the runtime leaves, and one invocation
    that depends on whether the runtime has raised. -/
theorem executeCpi_ends (h : ¬Denied call world.2) {answer : Except String Unit}
    {after : Svm.World}
    (hrun : (Svm.executeProgram columns call.place (call.request publicKey)).eval world.1 =
      (answer, after)) :
    (executeCpi columns publicKey call).eval world =
      (.ok (call.invocation (answer.map fun _ => after.executions call.place)), after,
        { world.2 with invocations := world.2.invocations ++
            [call.invocation (answer.map fun _ => after.executions call.place)] }) := by
  rcases world with ⟨runtime, tables⟩
  have hpending : (cpiInvocationRepository.insert call.pendingInvocation).eval (runtime, tables) =
      (.ok tables.invocations.length, runtime,
        { tables with invocations := tables.invocations ++ [call.pendingInvocation] }) := rfl
  have hexecution : (runtimeExecution columns publicKey call).eval runtime =
      (answer.map fun _ => after.executions call.place, after) := by
    rw [runtimeExecution, bind_eq, eval_bind, hrun]
    cases answer <;> rfl
  rw [executeCpi, bind_eq, eval_bind_ok (requirePermission_granted h), bind_eq,
    eval_bind_ok hpending, bind_eq, eval_bind, eval_attempt, eval_beside, hexecution]
  simp only [cpiInvocationRepository.save, query, bind_eq, eval_bind, eval_perform, pure_eq,
    eval_done]
  -- The pending invocation is the last one.
  rw [List.set_append_right _ _ le_rfl, Nat.sub_self, List.set_cons_zero]

/-- Nothing is in the way of the call: the program is a public key, no account is
    named, the gas meter has enough, and the network accepts what is sent. It also
    has to show a slot, unless the record of what was sent is refused anyway. -/
structure Unhindered (columns : Svm.Columns) (publicKey : String → Except String Unit)
    (call : CpiCall) (world : CpiWorld) : Prop where
  publicKey : publicKey call.dto.targetProgramId = .ok ()
  accounts : call.accounts = []
  meter : Svm.Affords world.1 call.dto.targetProgramId call.meterChoice 200000
  send : ∃ signature, call.send = .ok signature
  slot : columns = .exact → ∃ slotNumber, call.slot = .ok slotNumber

/-- A transaction is built for a public key without accounts. -/
theorem transaction_ok_iff : call.transaction publicKey = .ok () ↔
    publicKey call.dto.targetProgramId = .ok () ∧ call.accounts = [] := by
  rw [CpiCall.transaction]
  cases publicKey call.dto.targetProgramId with
  | error message =>
      refine iff_of_false (fun h => ?_) fun h => ?_
      · exact nomatch h
      · exact nomatch h.1
  | ok _ =>
      cases call.accounts with
      | nil => exact iff_of_true rfl ⟨rfl, rfl⟩
      | cons account accounts =>
          refine iff_of_false (fun h => ?_) fun h => ?_
          -- Either the account is no public key, or the signer is missing.
          · cases hkey : publicKey account with
            | error message =>
                change (publicKey account >>= fun _ => _) = _ at h
                rw [hkey] at h
                exact nomatch h
            | ok _ =>
                change (publicKey account >>= fun _ => _) = _ at h
                rw [hkey] at h
                exact nomatch h
          · exact nomatch h.2

theorem units_request (program : Svm.Program) :
    (call.request publicKey).units program = 200000 := by
  simp [CpiCall.request, Svm.ExecuteProgramDto.units, Svm.Given.truthy, Svm.Given.toOption,
    Option.filter]

theorem sendable_iff (program : Svm.Program) :
    Svm.Sendable world.1 (call.request publicKey) ((call.request publicKey).units program) ↔
      publicKey call.dto.targetProgramId = .ok () ∧ call.accounts = [] ∧
        Svm.Affords world.1 call.dto.targetProgramId call.meterChoice 200000 ∧
        ∃ signature, call.send = .ok signature := by
  rw [units_request program]
  constructor
  · intro h
    rcases transaction_ok_iff.mp h.transaction with ⟨hkey, haccounts⟩
    exact ⟨hkey, haccounts, h.meter, h.send⟩
  · rintro ⟨hkey, haccounts, hmeter, hsend⟩
    exact ⟨hmeter, transaction_ok_iff.mpr ⟨hkey, haccounts⟩, hsend⟩

/-- The record a call starts with is never refused. -/
theorem running_held (columns : Svm.Columns) (program : Svm.Program) :
    columns.refusal ((call.request publicKey).running program).numbers = none := by
  simp only [Svm.RuntimeExecution.numbers, Svm.ExecuteProgramDto.running, units_request program]
  cases columns with
  | exact => rfl
  | bigint => decide +kernel

/-- A call that was sent costs a tenth, which a `bigint` column refuses. -/
theorem sent_refused (program : Svm.Program) (signature : String) :
    ∃ error, Svm.Columns.bigint.refusal
      (((call.request publicKey).running program).succeed signature).numbers = some error := by
  simp only [Svm.RuntimeExecution.numbers, Svm.RuntimeExecution.succeed,
    Svm.ExecuteProgramDto.running, units_request program]
  exact Option.isSome_iff_exists.mp (by decide +kernel)

end Ends

section Stored

variable {columns : Svm.Columns} {publicKey : String → Except String Unit} {call : CpiCall}
  {world : CpiWorld} {after : Svm.World}

/-- What is promised of a call that is not denied, once the runtime has answered. -/
theorem truthful_iff_reported (hdenied : ¬Denied call world.2) {answer : Except String Unit}
    (hrun : (Svm.executeProgram columns call.place (call.request publicKey)).eval world.1 =
      (answer, after)) :
    Truthful columns publicKey call world ↔
      Reported answer (after.executions call.place)
        (call.invocation (answer.map fun _ => after.executions call.place)) := by
  simp only [Truthful, hdenied, false_implies, true_and, not_false_eq_true, true_implies]
  rw [executeCpi_ends hdenied hrun, hrun]
  constructor
  · rintro ⟨invocation, hok, -, hreported⟩
    cases hok
    exact hreported
  · exact fun hreported => ⟨_, rfl, rfl, hreported⟩

/-- What the runtime raises is recorded, as long as it has recorded no success. -/
theorem reported_of_raised {message : String} {execution : Option Svm.RuntimeExecution}
    (hnot : ¬∃ e, execution = some e ∧ e.status = .SUCCESS) :
    Reported (.error message) execution (call.invocation (.error message)) :=
  ⟨iff_of_false (fun h => nomatch h) hnot, fun _ => ⟨rfl, rfl⟩⟩

/-- What the runtime returns counts as a success, whether or not it is one. -/
theorem reported_of_returned {execution : Svm.RuntimeExecution} :
    Reported (.ok ()) (some execution) (call.invocation (.ok (some execution))) ↔
      execution.status = .SUCCESS := by
  constructor
  · rintro ⟨hstatus, -⟩
    rcases hstatus.mp rfl with ⟨e, he, hsuccess⟩
    cases he
    exact hsuccess
  · intro hsuccess
    refine ⟨iff_of_true rfl ⟨execution, rfl, hsuccess⟩, fun hnot => ?_⟩
    exact absurd ⟨execution, rfl, hsuccess⟩ hnot

/-- A call of a program that is stored is recorded as the runtime records it exactly
    when nothing is in the way of it. -/
theorem truthful_iff_unhindered (hdenied : ¬Denied call world.2) {program : Svm.Program}
    (hprogram : world.1.programs.findOne call.dto.targetProgramId = some program) :
    Truthful columns publicKey call world ↔ Unhindered columns publicKey call world := by
  by_cases hsendable : Svm.Sendable world.1 (call.request publicKey)
    ((call.request publicKey).units program)
  · obtain ⟨hkey, haccounts, hmeter, hsend⟩ := (sendable_iff program).mp hsendable
    cases columns with
    | exact =>
        rcases Svm.executeProgram_ends call.place (call.request publicKey) hprogram with
          ⟨execution, after, hrun, hrecorded, hends⟩
        rw [truthful_iff_reported hdenied hrun, hrecorded]
        refine reported_of_returned.trans ?_
        -- Only the slot can be missing.
        rcases hends with ⟨hclear, hsuccess⟩ | ⟨hhindered, hfailed⟩
        · exact iff_of_true hsuccess ⟨hkey, haccounts, hmeter, hsend, fun _ => hclear.slot⟩
        · refine iff_of_false (fun h => ?_) fun h => hhindered ⟨hsendable, h.slot rfl⟩
          rw [hfailed] at h
          exact nomatch h
    | bigint =>
        rcases Svm.executeProgram_refused call.place hprogram (running_held .bigint program)
          (sent_refused program) hsendable with ⟨error, after, hrun, hrunning⟩
        rw [truthful_iff_reported hdenied hrun, hrunning]
        refine iff_of_true (reported_of_raised ?_) ⟨hkey, haccounts, hmeter, hsend, nofun⟩
        rintro ⟨e, he, hsuccess⟩
        cases he
        exact nomatch hsuccess
  · -- The failure is recorded, and the call counts as successful.
    rcases Svm.executeProgram_unsent columns call.place hprogram
      (running_held columns program) hsendable with ⟨message, hrun⟩
    rw [truthful_iff_reported hdenied hrun, Svm.executions_setExecution]
    refine reported_of_returned.trans (iff_of_false (fun h => nomatch h) fun h => hsendable ?_)
    exact (sendable_iff program).mpr ⟨h.publicKey, h.accounts, h.meter, h.send⟩

end Stored

/-- A call's record says what the runtime says exactly when the call is denied,
    its program is not stored, or nothing is in the way of it. -/
theorem executeCpi_truthful_iff (columns : Svm.Columns) (publicKey : String → Except String Unit)
    (call : CpiCall) (world : CpiWorld) (hfree : world.1.executions call.place = none) :
    Truthful columns publicKey call world ↔
      Denied call world.2 ∨ world.1.programs.findOne call.dto.targetProgramId = none ∨
        Unhindered columns publicKey call world := by
  by_cases hdenied : Denied call world.2
  · -- A denial comes before anything is recorded.
    refine iff_of_true ⟨fun _ => ?_, fun h => absurd hdenied h⟩ (.inl hdenied)
    rw [executeCpi, bind_eq]
    exact eval_bind_error (requirePermission_denied hdenied)
  · cases hprogram : world.1.programs.findOne call.dto.targetProgramId with
    | none =>
        -- The runtime raises before it has recorded anything.
        have hrun := Svm.executeProgram_missing columns call.place (call.request publicKey) hprogram
        refine iff_of_true ((truthful_iff_reported hdenied hrun).mpr ?_) (.inr (.inl rfl))
        rw [hfree]
        refine reported_of_raised ?_
        rintro ⟨execution, h, -⟩
        exact nomatch h
    | some program =>
        simp only [hdenied, reduceCtorEq, false_or]
        exact truthful_iff_unhindered hdenied hprogram

/-- One program is stored, and there is nothing else. -/
def sampleWorld : CpiWorld :=
  ({ programs := ⟨[{ programId := "11111111111111111111111111111111", maxComputeUnits := 200000 }],
      List.nodup_singleton _⟩ }, {})

/-- A call of that program on the given accounts, which the network would accept. -/
def sampleCall (accounts : List AccountMeta) : CpiCall where
  dto := {
    transactionId := "transaction"
    callerProgramId := "caller"
    targetProgramId := "11111111111111111111111111111111"
    instructionData := "\x7b\x7d"
    accounts := some accounts }
  send := .ok "signature"
  slot := .ok 1

theorem executeCpi_truthful_sample :
    Truthful .exact (fun _ => .ok ()) (sampleCall []) sampleWorld ∧
      Truthful .bigint (fun _ => .ok ()) (sampleCall []) sampleWorld :=
  ⟨(executeCpi_truthful_iff .exact (fun _ => .ok ()) (sampleCall []) sampleWorld rfl).mpr
    (.inr (.inr ⟨rfl, rfl, (fun _ _ h => nomatch h), ⟨_, rfl⟩, fun _ => ⟨_, rfl⟩⟩)),
  (executeCpi_truthful_iff .bigint (fun _ => .ok ()) (sampleCall []) sampleWorld rfl).mpr
    (.inr (.inr ⟨rfl, rfl, (fun _ _ h => nomatch h), ⟨_, rfl⟩, nofun⟩))⟩

/-- A call on an account is never sent, and is recorded as successful. -/
theorem failure_recorded_as_success :
    ¬Truthful .bigint (fun _ => .ok ())
      (sampleCall [{ pubkey := "TokenkegQfeZyiNwAJbNbGKPFXCWuBvf9Ss623VQ5DA",
                     isSigner := false, isWritable := true }]) sampleWorld := by
  rintro ⟨-, hstored⟩
  -- No instruction is stored, so nothing is denied.
  rcases hstored fun ⟨_, hfound, _⟩ => nomatch hfound with ⟨invocation, hok, -, hreported, -⟩
  rcases hreported.mp (by cases hok; rfl) with ⟨execution, hexecution, hsuccess⟩
  cases hexecution
  exact nomatch hsuccess

end Invocations

end Cpi

end SvmCourse
