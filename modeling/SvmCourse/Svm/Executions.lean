import SvmCourse.Svm.GasMeters

/-!
# What an Execution Comes to

An execution of a program that is stored raises nothing but what its two saves
raise. On exact numbers these raise nothing, and the record says how it went: it
has succeeded when nothing was in the way, and failed otherwise.

A `bigint` column takes no fractions. What an execution costs is a millionth of
the units it has used, and of these there are at most 100000. So the record of
an execution that was sent and has used anything is refused, and the one it has
started with stays.

## Main definitions

* `Affords`: The gas meter that is found lets the units be used.
* `Sendable`: Nothing is in the way of the sending.
* `Unhindered`: Nothing is in the way of an execution.

## Theorems

* `executeProgram_missing`: A program that is not stored raises.
* `executeProgram_unsent`: An execution that is not sent is recorded as failed.
* `executeProgram_ends`: On exact numbers, the record says how it went.
* `executeProgram_refused`: A record that is refused leaves the first one.
-/

namespace SvmCourse

namespace Svm

open Core Core.Prog

variable {world : World} {place : Nat} {dto : ExecuteProgramDto}

theorem eval_attempt {α : Type} (p : Service α) (world : World) :
    (attempt p).eval world = (.ok (p.eval world).1, (p.eval world).2) :=
  eval_rescue_done p world

theorem eval_command {α : Type} (act : World → Except String α × World) (world : World) :
    (command act).eval world = act world := by
  rw [command, query, bind_eq, eval_bind, eval_perform]
  rcases act world with ⟨answer, after⟩
  cases answer <;> rfl

/-- The meter that is found, if one is, is active and lets the units be used. -/
def Affords (world : World) (identifier : String) (choice : Nat) (units : ℚ) : Prop :=
  ∀ meter id, world.meterOf identifier choice = some (meter, id) →
    meter.status = .ACTIVE ∧ units ≤ meter.gasRemaining ∧ units ≤ meter.gasLimitPerOperation

/-- Nothing is in the way of sending an execution that may use so many units: not
    the meter, not the transaction, and not the network. -/
structure Sendable (world : World) (dto : ExecuteProgramDto) (units : ℚ) : Prop where
  meter : Affords world dto.programId dto.choice units
  transaction : dto.transaction = .ok ()
  send : ∃ signature, dto.send = .ok signature

/-- Nothing is in the way of it, and the network shows a slot. -/
structure Unhindered (world : World) (dto : ExecuteProgramDto) (units : ℚ) : Prop extends
    Sendable world dto units where
  slot : ∃ slotNumber, dto.slot = .ok slotNumber

/-- The check of the meter writes nothing, and passes just when the meter lets
    the units be used. -/
theorem checkGasMeter_ends (world : World) (identifier : String) (units : ℚ) (choice : Nat) :
    ((checkGasMeter identifier units choice).eval world = (.ok (), world) ∧
      Affords world identifier choice units) ∨
    ∃ message, (checkGasMeter identifier units choice).eval world = (.error message, world) ∧
      ¬Affords world identifier choice units := by
  have hfind : (gasMeterRepository.findBy identifier choice).eval world =
      (.ok (world.meterOf identifier choice), world) := rfl
  rw [checkGasMeter, bind_eq, eval_bind_ok hfind]
  cases hfound : world.meterOf identifier choice with
  | none =>
      refine .inl ⟨rfl, fun meter id h => ?_⟩
      rw [hfound] at h
      exact nomatch h
  | some found =>
      rcases found with ⟨meter, id⟩
      have hrefused : ¬(meter.status = .ACTIVE ∧ units ≤ meter.gasRemaining ∧
          units ≤ meter.gasLimitPerOperation) → ¬Affords world identifier choice units :=
        fun hnot h => hnot (h meter id hfound)
      -- The checks in the order the service makes them.
      by_cases hactive : meter.status = .ACTIVE
      · simp only [hactive, decide_true]
        by_cases hremaining : units ≤ meter.gasRemaining
        · simp only [hremaining, decide_true]
          by_cases hlimit : units ≤ meter.gasLimitPerOperation
          · simp only [hlimit, decide_true]
            refine .inl ⟨rfl, fun meter' id' h => ?_⟩
            rw [hfound] at h
            cases h
            exact ⟨hactive, hremaining, hlimit⟩
          · simp only [hlimit, decide_false]
            exact .inr ⟨_, rfl, hrefused fun h => hlimit h.2.2⟩
        · simp only [hremaining, decide_false]
          exact .inr ⟨_, rfl, hrefused fun h => hremaining h.2.1⟩
      · simp only [hactive, decide_false]
        exact .inr ⟨_, rfl, hrefused fun h => hactive h.1⟩

/-- On exact numbers, a meter that lets the units be used is charged for them. -/
theorem consumeGas_affords {identifier : String} {choice : Nat} {units gasAmount : ℚ}
    (h : Affords world identifier choice units) (hle : gasAmount ≤ units) :
    ∃ after, (consumeGas .exact identifier gasAmount choice).eval world = (.ok (), after) := by
  have hfind : (gasMeterRepository.findBy identifier choice).eval world =
      (.ok (world.meterOf identifier choice), world) := rfl
  rw [consumeGas, bind_eq, eval_bind_ok hfind]
  cases hfound : world.meterOf identifier choice with
  | none => exact ⟨world, rfl⟩
  | some found =>
      rcases found with ⟨meter, id⟩
      rcases h meter id hfound with ⟨hactive, hremaining, -⟩
      have henough : ¬meter.gasRemaining < gasAmount := not_lt.mpr (hle.trans hremaining)
      simp only [hactive, decide_true, if_neg henough]
      exact ⟨_, rfl⟩

/-- Saving a meter, whether or not it is refused, writes no executions. -/
theorem save_frames (columns : Columns) (id : Nat) (meter : GasMeter) :
    (gasMeterRepository.save columns id meter).Frames World.executions := by
  refine frames_bind (frames_perform fun world => ?_) fun answer => frames_compute answer
  split <;> rfl

/-- Consuming gas writes no executions, whatever comes of it. -/
theorem consumeGas_frames (columns : Columns) (identifier : String) (gasAmount : ℚ)
    (choice : Nat) : (consumeGas columns identifier gasAmount choice).Frames World.executions := by
  refine frames_bind (frames_perform fun world => rfl) fun found => ?_
  cases found with
  | none => exact trivial
  | some found =>
      refine frames_bind (frames_require _ _) fun _ => ?_
      dsimp only
      -- A pause may be saved before the error is raised.
      split
      · split
        · exact frames_bind (save_frames ..) fun _ => trivial
        · exact trivial
      · exact save_frames ..

theorem executeProgram_missing (columns : Columns) (place : Nat) (dto : ExecuteProgramDto)
    (h : world.programs.findOne dto.programId = none) :
    (executeProgram columns place dto).eval world =
      (.error s!"Program with programId {dto.programId} not found", world) := by
  rw [executeProgram, bind_eq]
  refine eval_bind_error ?_
  rw [getProgramByProgramId, query, bind_eq, eval_bind, eval_perform, h]
  rfl

/-- What is sent of an execution, and what is in the way otherwise. -/
theorem sendExecution_ends (place : Nat) (dto : ExecuteProgramDto) (units : ℚ) (world : World) :
    (∃ signature after, (sendExecution place dto units).eval world = (.ok signature, after) ∧
      Affords world dto.programId dto.choice units ∧ dto.transaction = .ok () ∧
      dto.send = .ok signature ∧ after.meters = world.meters ∧
      after.executions = world.executions) ∨
    ∃ message, (sendExecution place dto units).eval world = (.error message, world) ∧
      ¬Sendable world dto units := by
  rw [sendExecution, bind_eq]
  -- The gas meter is checked first, then the transaction is built, and then it is
  -- sent.
  rcases checkGasMeter_ends world dto.programId units dto.choice with ⟨hok, hmeter⟩ |
    ⟨message, herror, hmeter⟩
  · rw [eval_bind_ok hok]
    cases htransaction : dto.transaction with
    | error message =>
        refine .inr ⟨message, rfl, fun h => ?_⟩
        rw [h.transaction] at htransaction
        exact nomatch htransaction
    | ok _ =>
        cases hsend : dto.send with
        | error message =>
            refine .inr ⟨message, ?_, fun h => ?_⟩
            · refine (eval_command _ world).trans ?_
              rw [hsend]
            · rcases h.send with ⟨signature, hsigned⟩
              rw [hsigned] at hsend
              exact nomatch hsend
        | ok signature =>
            refine .inl ⟨signature, { world with sent := world.sent ++ [place] }, ?_, hmeter, rfl,
              rfl, rfl, rfl⟩
            refine (eval_command _ world).trans ?_
            rw [hsend]
  · rw [eval_bind_error herror]
    exact .inr ⟨message, rfl, fun h => hmeter h.meter⟩

/-- What follows the sending: on exact numbers, the record stays as it is when the
    slot is found and the meter charged, and fails otherwise. -/
theorem settleExecution_ends (dto : ExecuteProgramDto) {execution : RuntimeExecution} {units : ℚ}
    (hmeter : Affords world dto.programId dto.choice units)
    (hused : execution.computeUnitsUsed ≤ units) :
    ∃ settled after, (settleExecution .exact dto execution).eval world = (.ok settled, after) ∧
      ((∃ slotNumber, dto.slot = .ok slotNumber) ∧ settled.status = execution.status ∨
        (¬∃ slotNumber, dto.slot = .ok slotNumber) ∧
          ∃ message, settled = execution.fail message) := by
  have hslot : (attempt (connection.getSlot dto)).eval world = (.ok dto.slot, world) := by
    rw [eval_attempt, connection.getSlot, eval_command]
  rw [settleExecution, bind_eq, eval_bind_ok hslot]
  cases dto.slot with
  | error message =>
      refine ⟨execution.fail message, world, rfl, .inr ⟨?_, message, rfl⟩⟩
      rintro ⟨slotNumber, h⟩
      exact nomatch h
  | ok slotNumber =>
      -- The units charged are among those that were checked, so charging works.
      rcases consumeGas_affords hmeter hused with ⟨after, hconsumed⟩
      have hcharged : (attempt (consumeGas .exact dto.programId execution.computeUnitsUsed
          dto.choice)).eval world = (.ok (.ok ()), after) := by
        rw [eval_attempt, hconsumed]
      refine ⟨{ execution with slotNumber := some slotNumber }, after, ?_,
        .inl ⟨⟨slotNumber, rfl⟩, rfl⟩⟩
      simp only [bind_eq]
      rw [eval_bind_ok hcharged]
      rfl

/-- Whatever follows the sending, the record keeps its numbers, and none is
    written. -/
theorem settleExecution_keeps (columns : Columns) (dto : ExecuteProgramDto)
    (execution : RuntimeExecution) (world : World) :
    ∃ settled after, (settleExecution columns dto execution).eval world = (.ok settled, after) ∧
      settled.numbers = execution.numbers ∧ after.executions = world.executions := by
  have hslot : (attempt (connection.getSlot dto)).eval world = (.ok dto.slot, world) := by
    rw [eval_attempt, connection.getSlot, eval_command]
  rw [settleExecution, bind_eq, eval_bind_ok hslot]
  cases dto.slot with
  | error message => exact ⟨execution.fail message, world, rfl, rfl, rfl⟩
  | ok slotNumber =>
      have hconsumed := (ensures_false_iff _ world _).mp (ensures_of_frames
        (consumeGas_frames columns dto.programId execution.computeUnitsUsed dto.choice) world)
      have hcharged := eval_attempt
        (consumeGas columns dto.programId execution.computeUnitsUsed dto.choice) world
      rcases hrun : (consumeGas columns dto.programId execution.computeUnitsUsed dto.choice).eval
        world with ⟨answer, after⟩
      rw [hrun] at hconsumed hcharged
      simp only [bind_eq]
      rw [eval_bind_ok hcharged]
      -- Charged or not, the figures of the record stay.
      cases answer with
      | ok _ => exact ⟨{ execution with slotNumber := some slotNumber }, after, rfl, rfl, hconsumed⟩
      | error message =>
          exact ⟨RuntimeExecution.fail { execution with slotNumber := some slotNumber } message,
            after, rfl, rfl, hconsumed⟩

/-- The units that are charged are among those that may be used. -/
theorem unitsUsed_le (units : ℚ) : unitsUsed units ≤ units := min_le_left _ _

/-- What is written when the execution was sent, or was not. -/
def concludeExecution (columns : Columns) (place : Nat) (dto : ExecuteProgramDto)
    (running : RuntimeExecution) : Except String String → Service Unit
  | .error message => executionRepository.save columns place (running.fail message)
  | .ok signature => do
    let settled ← settleExecution columns dto (running.succeed signature)
    executionRepository.save columns place settled

theorem executeProgram_eq (columns : Columns) (place : Nat) (dto : ExecuteProgramDto) :
    executeProgram columns place dto = (do
      let program ← getProgramByProgramId dto.programId
      executionRepository.save columns place (dto.running program)
      let sent ← attempt (sendExecution place dto (dto.units program))
      concludeExecution columns place dto (dto.running program) sent) := rfl

theorem eval_save {columns : Columns} {execution : RuntimeExecution}
    (h : columns.refusal execution.numbers = none) (place : Nat) (world : World) :
    (executionRepository.save columns place execution).eval world =
      (.ok (), world.setExecution place execution) := by
  rw [executionRepository.save, eval_command, h]

theorem eval_save_refused {columns : Columns} {execution : RuntimeExecution} {error : String}
    (h : columns.refusal execution.numbers = some error) (place : Nat) (world : World) :
    (executionRepository.save columns place execution).eval world = (.error error, world) := by
  rw [executionRepository.save, eval_command, h]

theorem executions_setExecution (world : World) (place : Nat) (execution : RuntimeExecution) :
    (world.setExecution place execution).executions place = some execution :=
  Function.update_self ..

section

variable {columns : Columns} {program : Program}

/-- An execution whose first record is stored goes on from there. -/
theorem executeProgram_started (h : world.programs.findOne dto.programId = some program)
    (hstart : columns.refusal (dto.running program).numbers = none) :
    (executeProgram columns place dto).eval world =
      ((do
        let sent ← attempt (sendExecution place dto (dto.units program))
        concludeExecution columns place dto (dto.running program) sent) : Service Unit).eval
          (world.setExecution place (dto.running program)) := by
  have hprogram : (getProgramByProgramId dto.programId).eval world = (.ok program, world) := by
    rw [getProgramByProgramId, query, bind_eq, eval_bind, eval_perform, h]
    rfl
  rw [executeProgram_eq, bind_eq, eval_bind_ok hprogram, bind_eq,
    eval_bind_ok (eval_save hstart place world)]

/-- Recording the start puts nothing in the way of the sending. -/
theorem sendable_setExecution {execution : RuntimeExecution} {units : ℚ} :
    Sendable (world.setExecution place execution) dto units ↔ Sendable world dto units :=
  ⟨fun h => ⟨h.meter, h.transaction, h.send⟩, fun h => ⟨h.meter, h.transaction, h.send⟩⟩

/-- An execution that is not sent is recorded as failed. -/
theorem executeProgram_unsent (columns : Columns) (place : Nat)
    (h : world.programs.findOne dto.programId = some program)
    (hstart : columns.refusal (dto.running program).numbers = none)
    (hnot : ¬Sendable world dto (dto.units program)) :
    ∃ message, (executeProgram columns place dto).eval world =
      (.ok (), (world.setExecution place (dto.running program)).setExecution place
        ((dto.running program).fail message)) := by
  rw [executeProgram_started h hstart, bind_eq]
  rcases sendExecution_ends place dto (dto.units program)
    (world.setExecution place (dto.running program)) with
    ⟨signature, sent, -, hmeter, htransaction, hsigned, -⟩ | ⟨message, herror, -⟩
  · exact absurd (sendable_setExecution.mp ⟨hmeter, htransaction, signature, hsigned⟩) hnot
  · have hsent : (attempt (sendExecution place dto (dto.units program))).eval
        (world.setExecution place (dto.running program)) =
          (.ok (.error message), world.setExecution place (dto.running program)) := by
      rw [eval_attempt, herror]
    -- The record that says so has the numbers of the first.
    have hfailed : columns.refusal ((dto.running program).fail message).numbers = none := hstart
    rw [eval_bind_ok hsent]
    exact ⟨message, eval_save hfailed place _⟩

/-- An execution that is sent is settled, and its record saved, with the meters and
    the record it has started with. -/
theorem executeProgram_sent (columns : Columns) (place : Nat)
    (h : world.programs.findOne dto.programId = some program)
    (hstart : columns.refusal (dto.running program).numbers = none)
    (hsendable : Sendable world dto (dto.units program)) :
    ∃ signature sent, (executeProgram columns place dto).eval world =
        (concludeExecution columns place dto (dto.running program) (.ok signature)).eval sent ∧
      Affords sent dto.programId dto.choice (dto.units program) ∧
      sent.executions place = some (dto.running program) := by
  rw [executeProgram_started h hstart, bind_eq]
  rcases sendExecution_ends place dto (dto.units program)
    (world.setExecution place (dto.running program)) with
    ⟨signature, sent, hsend, hmeter, -, -, hmeters, hexecutions⟩ | ⟨message, -, hnot⟩
  · have hsent : (attempt (sendExecution place dto (dto.units program))).eval
        (world.setExecution place (dto.running program)) = (.ok (.ok signature), sent) := by
      rw [eval_attempt, hsend]
    rw [eval_bind_ok hsent]
    refine ⟨signature, sent, rfl, fun meter id hfound => hmeter meter id ?_, ?_⟩
    · -- Sending charges nothing, so that the meter still has what was checked.
      rw [← hfound, World.meterOf, World.meterOf, World.metersOf, World.metersOf, hmeters]
    · rw [hexecutions]
      exact executions_setExecution world place (dto.running program)
  · exact absurd (sendable_setExecution.mpr hsendable) hnot

end

/-- On exact numbers, an execution of a program that is stored answers, and its
    record says that it has succeeded just when nothing was in the way. -/
theorem executeProgram_ends (place : Nat) (dto : ExecuteProgramDto) {program : Program}
    (h : world.programs.findOne dto.programId = some program) :
    ∃ execution after, (executeProgram .exact place dto).eval world = (.ok (), after) ∧
      after.executions place = some execution ∧
      (Unhindered world dto (dto.units program) ∧ execution.status = .SUCCESS ∨
        ¬Unhindered world dto (dto.units program) ∧ execution.status = .FAILED) := by
  by_cases hsendable : Sendable world dto (dto.units program)
  · -- It is sent. What is left is the slot of its signature, which may be missing.
    obtain ⟨signature, sent, hrun, hafford, -⟩ :=
      executeProgram_sent .exact place h rfl hsendable
    have hused : ((dto.running program).succeed signature).computeUnitsUsed ≤ dto.units program :=
      unitsUsed_le _
    rcases settleExecution_ends dto hafford hused with ⟨settled, after, hsettled, hends⟩
    rw [hrun, concludeExecution, bind_eq, eval_bind_ok hsettled]
    refine ⟨settled, after.setExecution place settled, rfl,
      executions_setExecution after place settled, ?_⟩
    rcases hends with ⟨hslot, hstatus⟩ | ⟨hslot, message, hfailed⟩
    · exact .inl ⟨⟨hsendable, hslot⟩, hstatus⟩
    · exact .inr ⟨fun hclear => hslot hclear.slot, by rw [hfailed]; rfl⟩
  · -- It is not sent, and the record is saved as failed.
    obtain ⟨message, hrun⟩ :=
      executeProgram_unsent .exact place h rfl hsendable
    rw [hrun]
    exact ⟨_, _, rfl, executions_setExecution _ place _,
      .inr ⟨fun h => hsendable h.toSendable, rfl⟩⟩

/-- When the record of an execution that was sent is refused, this is raised, and
    the record it has started with stays. -/
theorem executeProgram_refused {columns : Columns} {program : Program} (place : Nat)
    (h : world.programs.findOne dto.programId = some program)
    (hstart : columns.refusal (dto.running program).numbers = none)
    (hrefused : ∀ signature,
      ∃ error, columns.refusal ((dto.running program).succeed signature).numbers = some error)
    (hsendable : Sendable world dto (dto.units program)) :
    ∃ error after, (executeProgram columns place dto).eval world = (.error error, after) ∧
      after.executions place = some (dto.running program) := by
  obtain ⟨signature, sent, hrun, -, hrunning⟩ :=
    executeProgram_sent columns place h hstart hsendable
  obtain ⟨error, herror⟩ := hrefused signature
  rcases settleExecution_keeps columns dto ((dto.running program).succeed signature) sent with
    ⟨settled, after, hsettled, hnumbers, hexecutions⟩
  rw [← hnumbers] at herror
  rw [hrun, concludeExecution, bind_eq, eval_bind_ok hsettled, eval_save_refused herror]
  exact ⟨error, after, rfl, by rw [hexecutions, hrunning]⟩

end Svm

end SvmCourse
