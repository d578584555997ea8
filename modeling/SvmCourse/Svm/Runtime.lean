import Mathlib.Algebra.Order.Ring.Rat
import SvmCourse.Core.Prog
import SvmCourse.Core.Table

/-!
# Runtime

Gas meters, and programs that are executed on the network. An execution is
recorded as running, checked against the gas meter of its program, sent, and
then its slot is looked up and the meter is charged. Whatever goes wrong on the
way is caught, and the execution is recorded as failed.

Every access to the database and to the network is one step. What the network
answers comes with the request. A meter is found by a program or an account, and
which of several is found is decided outside. The id of a meter is its position,
and that of an execution the place of its request among those that are executed
together.

The entities declare their numeric columns as numbers, and the database has
`bigint` and `int` columns for them. Executing and consuming take the kind of
the columns as a parameter: `exact` ones behave as the entities say, and
`bigint` ones refuse fractions and are handed out as texts.

A property of a request that is not required may be absent, or null. Null is
stored like any other value, where the column admits it.

## Main definitions

* `Given`: A property that is not required.
* `Columns`: What numeric columns hold.
* `GasMeter`, `RuntimeExecution`: The entities.
* `World`: The tables, and what was sent.
* `createGasMeter`, `updateGasMeter`, `consumeGas`, `checkGasMeter`,
  `resetGasMeter`: Gas metering.
* `executeProgram`: One execution.
* `checkComputeUnits`, `collect`: What is done before and after executions in
  parallel.
-/

namespace SvmCourse

namespace Svm

open Core Core.Prog

/-! ### Entities -/

/-- A property of a request that is not required. -/
inductive Given (α : Type) where
  | absent
  | null
  | value (a : α)
  deriving DecidableEq

namespace Given

variable {α : Type}

/-- The value, if there is one. -/
def toOption : Given α → Option α
  | .value a => some a
  | .absent | .null => none

/-- The field is null, and not merely missing. -/
def isNull : Given α → Bool
  | .null => true
  | .absent | .value _ => false

/-- The value, if it counts as true. -/
def truthy (given : Given ℚ) : Option ℚ := given.toOption.filter (· ≠ 0)

end Given

/-- What numeric columns hold: any number, or whole numbers only, as `bigint` and
    `int` columns do. -/
inductive Columns where
  | exact
  | bigint
  deriving DecidableEq

namespace Columns

/-- The error of a save, for the numbers of its row with their types. The message has
    the number as the rational it is. -/
def refusal (columns : Columns) (numbers : List (String × ℚ)) : Option String :=
  match columns with
  | .exact => none
  | .bigint => (numbers.find? fun number => number.2.den ≠ 1).map fun number =>
      s!"invalid input syntax for type {number.1}: \"{number.2}\""

/-- What `+=` makes of a number that was looked up. A `bigint` column hands it out
    as a text, and the amount is written after its digits. Neither is negative. -/
def plus (columns : Columns) (stored amount : ℚ) : ℚ :=
  match columns with
  | .exact => stored + amount
  | .bigint => stored * 10 ^ (Nat.toDigits 10 amount.floor.toNat).length + amount

end Columns

/-- The statuses of a meter. -/
inductive GasMeterStatus where
  | ACTIVE | PAUSED | EXCEEDED
  deriving DecidableEq, Repr

/-- The text of a status. -/
def GasMeterStatus.text : GasMeterStatus → String
  | .ACTIVE => "active"
  | .PAUSED => "paused"
  | .EXCEEDED => "exceeded"

/-- A row of the meters. -/
structure GasMeter where
  programId : Option String
  accountId : Option String
  status : GasMeterStatus := .ACTIVE
  gasAllocated : ℚ
  gasUsed : ℚ
  gasRemaining : ℚ
  gasLimitPerOperation : ℚ
  resetPeriodSeconds : ℚ
  operationCount : ℚ
  averageGasPerOperation : ℚ
  peakGasUsage : ℚ
  efficiencyRating : ℚ
  alertThresholdPercent : ℚ
  autoPauseOnThreshold : Bool
  deriving DecidableEq

/-- The numbers of a meter, with the types of their columns. -/
def GasMeter.numbers (meter : GasMeter) : List (String × ℚ) :=
  [("bigint", meter.gasAllocated), ("bigint", meter.gasUsed), ("bigint", meter.gasRemaining),
    ("bigint", meter.gasLimitPerOperation), ("bigint", meter.resetPeriodSeconds),
    ("bigint", meter.operationCount), ("bigint", meter.averageGasPerOperation),
    ("bigint", meter.peakGasUsage), ("integer", meter.efficiencyRating),
    ("integer", meter.alertThresholdPercent)]

/-- A row of the programs. -/
structure Program where
  programId : String
  maxComputeUnits : ℚ
  deriving DecidableEq

/-- The statuses of an execution. -/
inductive ExecutionStatus where
  | PENDING | RUNNING | SUCCESS | FAILED | TIMEOUT
  deriving DecidableEq, Repr

/-- A row of the executions. -/
structure RuntimeExecution where
  programId : String
  status : ExecutionStatus
  computeUnitsAllocated : ℚ := 200000
  computeUnitsUsed : ℚ := 0
  gasCost : ℚ := 0
  transactionId : Option String := none
  slotNumber : Option Int := none
  errorMessage : Option String := none
  deriving DecidableEq

/-- The numbers of an execution, with the types of their columns. -/
def RuntimeExecution.numbers (execution : RuntimeExecution) : List (String × ℚ) :=
  [("bigint", execution.computeUnitsUsed), ("bigint", execution.computeUnitsAllocated),
    ("bigint", execution.gasCost)]

/-! ### The world -/

/-- The tables, the places of the requests that were sent, and the records that
    stand for requests that have none. -/
structure World where
  programs : Table Program.programId := .empty
  meters : List GasMeter := []
  executions : Nat → Option RuntimeExecution := fun _ => none
  sent : List Nat := []
  failures : List RuntimeExecution := []

/-- A call of the service: accesses one after the other, or an error. -/
abbrev Service := Prog World String

/-- One access to the world. -/
def query {α : Type} (act : World → α × World) : Service α := Prog.perform "StoreError" act

/-- An access that may be answered with an error. -/
def command {α : Type} (act : World → Except String α × World) : Service α := do
  let answer ← query act
  compute answer

/-- What comes of a program, whether it raises or not. -/
def attempt {α : Type} (p : Service α) : Service (Except String α) :=
  (p.bind fun a => .done (.ok a)).rescue fun message => .done (.error message)

namespace World

/-- The meters of a program or an account with their ids. -/
def metersOf (world : World) (identifier : String) : List (GasMeter × Nat) :=
  world.meters.zipIdx.filter fun row =>
    row.1.programId = some identifier ∨ row.1.accountId = some identifier

/-- The meter a lookup finds. -/
def meterOf (world : World) (identifier : String) (choice : Nat) : Option (GasMeter × Nat) :=
  (world.metersOf identifier)[choice % (world.metersOf identifier).length]?

/-- The world with the row of a meter written. -/
def setMeter (world : World) (id : Nat) (meter : GasMeter) : World :=
  { world with meters := world.meters.set id meter }

/-- The world with the row of an execution written. -/
def setExecution (world : World) (place : Nat) (execution : RuntimeExecution) : World :=
  { world with executions := Function.update world.executions place (some execution) }

end World

namespace gasMeterRepository

/-- The meter with that id. -/
def findOne (id : Nat) : Service (Option GasMeter) := query fun world => (world.meters[id]?, world)

/-- A meter of that name, and its place. -/
def findBy (identifier : String) (choice : Nat) : Service (Option (GasMeter × Nat)) :=
  query fun world => (world.meterOf identifier choice, world)

/-- Save a new meter. -/
def insert (meter : GasMeter) : Service Unit :=
  query fun world => ((), { world with meters := world.meters ++ [meter] })

/-- Write a meter, unless a column refuses one of its numbers. -/
def save (columns : Columns) (id : Nat) (meter : GasMeter) : Service Unit :=
  command fun world =>
    match columns.refusal meter.numbers with
    | some error => (.error error, world)
    | none => (.ok (), world.setMeter id meter)

end gasMeterRepository

/-- The columns of a meter that are null although they must not be. -/
def requireColumns (columns : List (String × Bool)) : Service Unit :=
  each columns fun column =>
    require (!column.2)
      (s!"null value in column \"{column.1}\" of relation \"gas_meters\" " ++
        "violates not-null constraint")

/-! ### Gas metering -/

/-- The body of a new meter. -/
structure CreateGasMeterDto where
  programId : Given String := .absent
  accountId : Given String := .absent
  gasAllocated : ℚ
  gasLimitPerOperation : Given ℚ := .absent
  resetPeriodSeconds : Given ℚ := .absent
  alertThresholdPercent : Given ℚ := .absent
  autoPauseOnThreshold : Given Bool := .absent

/-- Create a meter. -/
def createGasMeter (dto : CreateGasMeterDto) : Service Unit := do
  requireColumns [("gas_limit_per_operation", dto.gasLimitPerOperation.isNull),
    ("reset_period_seconds", dto.resetPeriodSeconds.isNull)]
  gasMeterRepository.insert {
    programId := dto.programId.toOption
    accountId := dto.accountId.toOption
    gasAllocated := dto.gasAllocated
    gasUsed := 0
    gasRemaining := dto.gasAllocated
    gasLimitPerOperation := dto.gasLimitPerOperation.toOption.getD 200000
    resetPeriodSeconds := dto.resetPeriodSeconds.toOption.getD 0
    operationCount := 0
    averageGasPerOperation := 0
    peakGasUsage := 0
    efficiencyRating := 100
    -- Here zero counts as absent, elsewhere it is kept.
    alertThresholdPercent := dto.alertThresholdPercent.truthy.getD 80
    autoPauseOnThreshold := dto.autoPauseOnThreshold.toOption.getD false }

/-- Find a meter, or say that there is none. -/
def getGasMeter (id : Nat) : Service GasMeter := do
  let meter ← gasMeterRepository.findOne id
  demand meter s!"Gas meter with ID {id} not found"

/-- The body of a change. -/
structure UpdateGasMeterDto where
  status : Given GasMeterStatus := .absent
  addGasAllocation : Given ℚ := .absent
  gasLimitPerOperation : Given ℚ := .absent
  resetPeriodSeconds : Given ℚ := .absent
  alertThresholdPercent : Given ℚ := .absent
  autoPauseOnThreshold : Given Bool := .absent

namespace UpdateGasMeterDto

/-- The columns that the request assigns, and whether it assigns null to them. -/
def columns (dto : UpdateGasMeterDto) : List (String × Bool) :=
  [("status", dto.status.isNull), ("gas_limit_per_operation", dto.gasLimitPerOperation.isNull),
    ("reset_period_seconds", dto.resetPeriodSeconds.isNull),
    ("alert_threshold_percent", dto.alertThresholdPercent.isNull),
    ("auto_pause_on_threshold", dto.autoPauseOnThreshold.isNull)]

/-- The meter with the fields that are given. -/
def assign (dto : UpdateGasMeterDto) (meter : GasMeter) : GasMeter :=
  { meter with
    status := dto.status.toOption.getD meter.status
    gasLimitPerOperation := dto.gasLimitPerOperation.toOption.getD meter.gasLimitPerOperation
    resetPeriodSeconds := dto.resetPeriodSeconds.toOption.getD meter.resetPeriodSeconds
    alertThresholdPercent := dto.alertThresholdPercent.toOption.getD meter.alertThresholdPercent
    autoPauseOnThreshold := dto.autoPauseOnThreshold.toOption.getD meter.autoPauseOnThreshold }

end UpdateGasMeterDto

/-- The meter with more gas allocated. -/
def GasMeter.topUp (meter : GasMeter) (gas : ℚ) : GasMeter :=
  { meter with
    gasAllocated := meter.gasAllocated + gas
    gasRemaining := meter.gasRemaining + gas }

/-- Change a meter: add what it is given, and assign the other fields. -/
def updateGasMeter (id : Nat) (dto : UpdateGasMeterDto) : Service Unit := do
  let meter ← getGasMeter id
  let meter := match dto.addGasAllocation.truthy with
    | some gas => meter.topUp gas
    | none => meter
  -- The figures are changed before the table can refuse the save.
  requireColumns dto.columns
  gasMeterRepository.save .exact id (dto.assign meter)

/-- The meter after gas was consumed. -/
def GasMeter.charged (columns : Columns) (meter : GasMeter) (gasAmount : ℚ) : GasMeter :=
  let gasUsed := columns.plus meter.gasUsed gasAmount
  let operationCount := columns.plus meter.operationCount 1
  { meter with
    gasUsed
    -- A minus makes numbers of its operands, whatever the columns hold.
    gasRemaining := meter.gasRemaining - gasAmount
    operationCount
    averageGasPerOperation := gasUsed / operationCount
    peakGasUsage := max meter.peakGasUsage gasAmount
    efficiencyRating := max 0 (100 - gasUsed * 100 / meter.gasAllocated) }

/-- Without a meter, nothing is in the way. -/
def consumeGas (columns : Columns) (identifier : String) (gasAmount : ℚ) (choice : Nat) :
    Service Unit := do
  let found ← gasMeterRepository.findBy identifier choice
  match found with
  | none => pure ()
  | some (meter, id) =>
    require (meter.status = .ACTIVE) s!"Gas meter is {meter.status.text}"
    if meter.gasRemaining < gasAmount then
      -- The pause is saved, and then the error raised.
      if meter.autoPauseOnThreshold then
        gasMeterRepository.save columns id { meter with status := .EXCEEDED }
      raise "Insufficient gas remaining"
    else gasMeterRepository.save columns id (meter.charged columns gasAmount)

/-- The message has the amounts as the rationals they are. -/
def checkGasMeter (identifier : String) (requiredGas : ℚ) (choice : Nat) : Service Unit := do
  let found ← gasMeterRepository.findBy identifier choice
  match found with
  -- A program without a meter is not limited.
  | none => pure ()
  | some (meter, _) =>
    require (meter.status = .ACTIVE) s!"Gas meter is {meter.status.text}"
    require (requiredGas ≤ meter.gasRemaining) "Insufficient gas remaining for operation"
    let gas := requiredGas
    let limit := meter.gasLimitPerOperation
    require (requiredGas ≤ meter.gasLimitPerOperation)
      s!"Gas required ({gas}) exceeds limit per operation ({limit})"

/-- The body of a reset. -/
structure ResetGasMeterDto where
  fullReset : Given Bool := .absent
  newAllocation : Given ℚ := .absent

/-- The meter with all its gas again. -/
def GasMeter.fullReset (meter : GasMeter) : GasMeter :=
  { meter with
    gasUsed := 0
    gasRemaining := meter.gasAllocated
    operationCount := 0
    averageGasPerOperation := 0
    peakGasUsage := 0
    efficiencyRating := 100
    status := .ACTIVE }

/-- The meter with another allocation, of which what it has used is gone. -/
def GasMeter.reallocate (meter : GasMeter) (newAllocation : ℚ) : GasMeter :=
  if newAllocation - meter.gasUsed < 0 then
    { meter with gasAllocated := newAllocation, gasRemaining := 0, status := .EXCEEDED }
  else
    { meter with
      gasAllocated := newAllocation
      gasRemaining := newAllocation - meter.gasUsed }

/-- Reset a meter, in full or to another allocation. -/
def resetGasMeter (id : Nat) (dto : ResetGasMeterDto) : Service Unit := do
  let meter ← getGasMeter id
  let meter :=
    if dto.fullReset.toOption = some true then meter.fullReset
    else
      match dto.newAllocation.truthy with
      | some newAllocation => meter.reallocate newAllocation
      | none => meter
  gasMeterRepository.save .exact id meter

/-! ### Executions -/

/-- Besides the request, which meter is found, whether the transaction can be
    built, and what the network answers. -/
structure ExecuteProgramDto where
  programId : String
  maxComputeUnits : Given ℚ := .absent
  choice : Nat := 0
  transaction : Except String Unit := .ok ()
  send : Except String String
  slot : Except String Int

/-- Find a program, or say that there is none. -/
def getProgramByProgramId (programId : String) : Service Program := do
  let program ← query fun world => (world.programs.findOne programId, world)
  demand program s!"Program with programId {programId} not found"

namespace executionRepository

/-- The row, unless a column refuses its number. -/
def save (columns : Columns) (place : Nat) (execution : RuntimeExecution) : Service Unit :=
  command fun world =>
    match columns.refusal execution.numbers with
    | some error => (.error error, world)
    | none => (.ok (), world.setExecution place execution)

end executionRepository

namespace connection

/-- Send the transaction, which is noted when it is accepted. -/
def sendAndConfirmTransaction (place : Nat) (dto : ExecuteProgramDto) : Service String :=
  command fun world =>
    match dto.send with
    | .ok signature => (.ok signature, { world with sent := world.sent ++ [place] })
    | .error message => (.error message, world)

/-- The slot of the transaction, as far as it can be asked for. -/
def getSlot (dto : ExecuteProgramDto) : Service Int := command fun world => (dto.slot, world)

end connection

/-- The units an execution may use. -/
def ExecuteProgramDto.units (dto : ExecuteProgramDto) (program : Program) : ℚ :=
  dto.maxComputeUnits.truthy.getD program.maxComputeUnits

/-- What is charged for an execution. -/
def unitsUsed (units : ℚ) : ℚ := min units 100000

/-- Send an execution: check the meter, and build and send the transaction. -/
def sendExecution (place : Nat) (dto : ExecuteProgramDto) (units : ℚ) : Service String := do
  -- The meter is checked for all that may be used, and charged for less.
  checkGasMeter dto.programId units dto.choice
  compute dto.transaction
  connection.sendAndConfirmTransaction place dto

/-- The row of an execution that failed. -/
def RuntimeExecution.fail (execution : RuntimeExecution) (message : String) : RuntimeExecution :=
  { execution with status := .FAILED, errorMessage := some message }

/-- The execution after what follows the sending. -/
def settleExecution (columns : Columns) (dto : ExecuteProgramDto) (execution : RuntimeExecution) :
    Service RuntimeExecution := do
  let slot ← attempt (connection.getSlot dto)
  match slot with
  -- The transaction is sent all the same.
  | .error message => pure (execution.fail message)
  | .ok slotNumber =>
    let execution := { execution with slotNumber := some slotNumber }
    let consumed ← attempt
      (consumeGas columns dto.programId execution.computeUnitsUsed dto.choice)
    match consumed with
    | .error message => pure (execution.fail message)
    | .ok _ => pure execution

/-- The record an execution starts with. -/
def ExecuteProgramDto.running (dto : ExecuteProgramDto) (program : Program) :
    RuntimeExecution where
  programId := dto.programId
  status := .RUNNING
  computeUnitsAllocated := dto.units program

/-- The record of an execution that was sent. -/
def RuntimeExecution.succeed (execution : RuntimeExecution) (signature : String) :
    RuntimeExecution :=
  { execution with
    status := .SUCCESS
    computeUnitsUsed := unitsUsed execution.computeUnitsAllocated
    gasCost := unitsUsed execution.computeUnitsAllocated * 0.000001
    transactionId := some signature }

/-- What goes wrong between the two saves is recorded, and what goes wrong with the
    saves is raised. -/
def executeProgram (columns : Columns) (place : Nat) (dto : ExecuteProgramDto) :
    Service Unit := do
  let program ← getProgramByProgramId dto.programId
  -- The record is saved as running before anything is sent.
  executionRepository.save columns place (dto.running program)
  let sent ← attempt (sendExecution place dto (dto.units program))
  match sent with
  -- The saves at the end stand outside the `try`, so what they raise escapes.
  | .error message => executionRepository.save columns place ((dto.running program).fail message)
  | .ok signature =>
    let settled ← settleExecution columns dto ((dto.running program).succeed signature)
    executionRepository.save columns place settled

/-- The body of a parallel execution. -/
structure ParallelExecutionDto where
  executions : List ExecuteProgramDto
  maxTotalComputeUnits : Given ℚ := .absent
  continueOnFailure : Bool := false

/-- What is checked before anything is executed. -/
def checkComputeUnits (dto : ParallelExecutionDto) : Except String Unit :=
  let totalComputeUnits :=
    -- Here the default is the service's, not the program's.
    (dto.executions.map fun e => e.maxComputeUnits.truthy.getD 200000).sum
  match dto.maxTotalComputeUnits.truthy with
  | some maximum =>
    if maximum < totalComputeUnits then .error "Total compute units exceed maximum allowed"
    else .ok ()
  | none => .ok ()

/-- What is done with the results of all executions: those that were rejected are
    thrown, or recorded. A record names a program that has to be stored. -/
def collect (continueOnFailure : Bool) :
    List (Nat × Except String Unit) → World → Except String (List RuntimeExecution) × World
  | [], world => (.ok [], world)
  | (place, .ok _) :: results, world =>
    let (rest, after) := collect continueOnFailure results world
    (rest.map fun executions => (world.executions place).toList ++ executions, after)
  | (_, .error reason) :: results, world =>
    if continueOnFailure then
      -- The record of a failure names the program `unknown`, which must be there.
      if (world.programs.findOne "unknown").isSome then
        let failed : RuntimeExecution :=
          { programId := "unknown", status := .FAILED, errorMessage := some reason }
        let (rest, after) := collect continueOnFailure results
          { world with failures := world.failures ++ [failed] }
        (rest.map fun executions => failed :: executions, after)
      else
        (.error ("insert or update on table \"runtime_executions\" violates foreign key " ++
          "constraint"), world)
    else (.error reason, world)

end Svm

end SvmCourse
