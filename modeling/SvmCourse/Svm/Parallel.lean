import SvmCourse.Core.Contributions
import SvmCourse.Svm.GasMeters

/-!
# Executions in Parallel

Executions that are started together share gas meters. Each of them looks up its
slot and charges the meter of its program after it was sent. If that goes wrong,
it is recorded as failed although it was sent, and if the meter was saved in the
meantime by another one, what that one has charged is lost.

In `bigint` columns, what an execution costs is refused as soon as it has used
anything, and it stays recorded as running although it was sent. What a meter
has used is handed out as a text, and adding to it appends digits. So there only
executions that use nothing of a meter that is not used are recorded as they
should be.

An execution is known by its accesses: it was not sent, or it was sent and then
it was recorded, charged or not. So it is enough that the accesses that come
after the sending find what they need.

## Main definitions

* `executeParallel`: The executions of a request, under a schedule.
* `Course`: The accesses of an execution.
* `Sure`: When the accesses after the sending find what they need.
* `Accounted`: Meters are charged for what was sent, and that is recorded.

## Theorems

* `executeProgram_follows`: Executions take one of the courses.
* `accurate_of_course`: What an execution that finds what it needs has recorded and
  charged.
* `executeParallel_accounted`: What holds of all executions together.
-/

namespace SvmCourse

namespace Svm

open Core Core.Prog Core.Machine Core.Sched

/-! ### Executions under a schedule -/

/-- An execution and its place. -/
abbrev Execution := Nat × ExecuteProgramDto

/-- What an execution does, access by access. -/
def Execution.program (columns : Columns) (execution : Execution) : Service Unit :=
  executeProgram columns execution.1 execution.2

/-- The executions of a request, each with its place. -/
def ParallelExecutionDto.calls (dto : ParallelExecutionDto) : List Execution :=
  dto.executions.zipIdx.map Prod.swap

/-- All executions are started, and nothing of them is recorded or sent. -/
def begin (columns : Columns) (dto : ParallelExecutionDto) (world : World) :
    Recorded World String Execution :=
  ⟨{ world with executions := fun _ => none, sent := [] },
    dto.calls.map fun call => ⟨call, call.program columns, [], []⟩⟩

/-- After these accesses, if they are all. -/
def running (columns : Columns) (dto : ParallelExecutionDto) (world : World) (moves : List Nat) :
    Recorded World String Execution :=
  after (record (Execution.program columns)) (moves.map Move.access) (begin columns dto world)

/-- What a call has come to, if it has ended. -/
def Ended (w : Watched World String Execution) : Option (Nat × Except String Unit) :=
  w.rest.outcome.map fun outcome => (w.call.1, outcome)

/-- The executions of a request, each access made in its turn. There is an answer
    when all have ended. -/
def executeParallel (columns : Columns) (dto : ParallelExecutionDto) (world : World)
    (moves : List Nat) : Option (Except String (List RuntimeExecution) × World) :=
  match checkComputeUnits dto with
  | .error message => some (.error message, world)
  | .ok _ =>
    let ran := running columns dto world moves
    (ran.calls.mapM Ended).map fun results =>
      collect dto.continueOnFailure results ran.store

/-! ### Meters -/

namespace World

/-- Whose the meters are. -/
def owners (world : World) : List (Option String × Option String) :=
  world.meters.map fun meter => (meter.programId, meter.accountId)

/-- The id of the meter a lookup finds. -/
def meterId (world : World) (dto : ExecuteProgramDto) : Option Nat :=
  (world.meterOf dto.programId dto.choice).map Prod.snd

/-- The gas that a meter has used, by its row. -/
def gasUsedOf (id : Nat) (world : World) : ℚ := (world.meters[id]?.map GasMeter.gasUsed).getD 0

/-- What is charged for an execution, if its program is known. -/
def unitsCharged (world : World) (dto : ExecuteProgramDto) : ℚ :=
  ((world.programs.findOne dto.programId).map fun program => unitsUsed (dto.units program)).getD 0

end World

theorem metersOf_ids (world : World) (identifier : String) :
    (world.metersOf identifier).map Prod.snd =
      (world.owners.zipIdx.filter fun row =>
        row.1.1 = some identifier ∨ row.1.2 = some identifier).map Prod.snd := by
  rw [World.metersOf, World.owners, List.zipIdx_map, List.filter_map, List.map_map]
  rfl

/-- Which meter is found depends on whose the meters are. -/
theorem meterId_congr {s t : World} (h : t.owners = s.owners) (dto : ExecuteProgramDto) :
    t.meterId dto = s.meterId dto := by
  -- The lookup counts through the ids of the owner's meters.
  have hids : (t.metersOf dto.programId).map Prod.snd =
      (s.metersOf dto.programId).map Prod.snd := by
    rw [metersOf_ids, metersOf_ids, h]
  have hlength := congrArg List.length hids
  rw [List.length_map, List.length_map] at hlength
  rw [World.meterId, World.meterId, World.meterOf, World.meterOf, ← List.getElem?_map,
    ← List.getElem?_map, hids, hlength]

/-! ### Courses -/

/-- A step that finds a place for a row, or leaves the world alone. -/
def Harmless (place : Nat) (p : World × World) : Prop :=
  p.2 = p.1 ∨ ∃ execution, p.2 = p.1.setExecution place execution

/-- What comes after the sending: looking up the slot and the meter, charging it
    and recording the execution. -/
inductive Settling (columns : Columns) (place : Nat) (dto : ExecuteProgramDto) (units : ℚ) :
    List (World × World) → Prop
  | slotless {p4 rest} (hslot : ¬∃ slot, dto.slot = .ok slot) :
    Settling columns place dto units (p4 :: rest)
  -- The record in the end is refused.
  | costly {p4 rest} (hcost : ¬(columns = .bigint → units = 0)) :
    Settling columns place dto units (p4 :: rest)
  -- The meter is not charged, and may be paused.
  | refused {p4 p5 rest meter id} (hlook : p4.2 = p4.1)
    (hfound : p5.1.meterOf dto.programId dto.choice = some (meter, id))
    (hnot : ¬(meter.status = .ACTIVE ∧ units ≤ meter.gasRemaining ∧
      columns.refusal (meter.charged columns units).numbers = none)) :
    Settling columns place dto units (p4 :: p5 :: rest)
  | free {p4 p5 p6 execution} (hlook : p4.2 = p4.1) (hfind : p5.2 = p5.1)
    (hnone : p5.1.meterOf dto.programId dto.choice = none)
    (hsave : p6.2 = p6.1.setExecution place execution) (hsuccess : execution.status = .SUCCESS)
    (hunits : execution.computeUnitsUsed = units) : Settling columns place dto units [p4, p5, p6]
  -- The meter that is saved is the one found two accesses before.
  | charged {p4 p5 p6 p7 meter id execution} (hlook : p4.2 = p4.1) (hfind : p5.2 = p5.1)
    (hfound : p5.1.meterOf dto.programId dto.choice = some (meter, id))
    (hcharge : p6.2 = p6.1.setMeter id (meter.charged columns units))
    (hsave : p7.2 = p7.1.setExecution place execution) (hsuccess : execution.status = .SUCCESS)
    (hunits : execution.computeUnitsUsed = units) :
    Settling columns place dto units [p4, p5, p6, p7]

/-- The accesses of an execution that has ended. -/
inductive Course (columns : Columns) (place : Nat) (dto : ExecuteProgramDto) :
    List (World × World) → Prop
  -- The program is not known, or the first record is refused.
  | idle {seen} (hidle : ∀ p ∈ seen, p.2 = p.1) : Course columns place dto seen
  -- The check, the transaction or the sending has failed.
  | unsent {before p execution} (hbefore : ∀ q ∈ before, Harmless place q)
    (hsave : p.2 = p.1.setExecution place execution) (hfailed : execution.status ≠ .SUCCESS) :
    Course columns place dto (before ++ [p])
  | sent {p0 p1 p2 p3 rest program execution} (hfind : p0.2 = p0.1)
    (hprogram : p0.1.programs.findOne dto.programId = some program)
    (hsave : p1.2 = p1.1.setExecution place execution) (hcheck : p2.2 = p2.1)
    (hsend : p3.2 = { p3.1 with sent := p3.1.sent ++ [place] })
    (hsettling : Settling columns place dto (unitsUsed (dto.units program)) rest) :
    Course columns place dto (p0 :: p1 :: p2 :: p3 :: rest)

/-- The kinds of accesses that executions make. -/
def Does (call : Execution) (seen : List (World × World)) (s t : World) : Prop :=
  t = s ∨ (∃ execution, t = s.setExecution call.1 execution) ∨
    t = { s with sent := s.sent ++ [call.1] } ∨
    ∃ id meter meter', (∃ p ∈ seen, p.1.meters[id]? = some meter) ∧
      (meter'.programId, meter'.accountId) = (meter.programId, meter.accountId) ∧
      t = s.setMeter id meter'

/-- An execution that ends has taken one of the courses. -/
def Taken (columns : Columns) (call : Execution) (seen : List (World × World))
    (_ : Except String Unit) : Prop :=
  Course columns call.1 call.2 seen

section Follows

variable {columns : Columns} {call : Execution} {seen : List (World × World)} {α : Type}

theorem follows_attempt {p : Service α}
    {R : List (World × World) → Except String (Except String α) → Prop}
    (hp : p.Follows (watching (Does call)) (fun seen r => R seen (.ok r)) seen) :
    (attempt p).Follows (watching (Does call)) R seen := by
  -- Either answer comes back as a result.
  refine follows_rescue (follows_bind (follows_mono hp fun seen r hr => ?_))
  cases r with
  | ok a => exact hr
  | error message => exact hr

theorem follows_look {find : World → α} {R : List (World × World) → Except String α → Prop}
    (h : ∀ s, R (seen ++ [(s, s)]) (.ok (find s))) :
    (query fun s => (find s, s)).Follows (watching (Does call)) R seen :=
  follows_watching fun s => ⟨.inl rfl, h s⟩

/-- A save stores the row or is refused, by the numbers of the row. -/
theorem follows_save {execution : RuntimeExecution}
    {R : List (World × World) → Except String Unit → Prop}
    (hstored : columns.refusal execution.numbers = none →
      ∀ s, R (seen ++ [(s, s.setExecution call.1 execution)]) (.ok ()))
    (hrefused : ∀ error, columns.refusal execution.numbers = some error →
      ∀ s, R (seen ++ [(s, s)]) (.error error)) :
    (executionRepository.save columns call.1 execution).Follows (watching (Does call)) R seen := by
  unfold executionRepository.save
  cases hnumbers : columns.refusal execution.numbers with
  | none =>
      exact follows_bind (follows_watching fun s =>
        ⟨.inr (.inl ⟨execution, rfl⟩), follows_compute (hstored hnumbers s)⟩)
  | some error =>
      exact follows_bind (follows_watching fun s =>
        ⟨.inl rfl, follows_compute (hrefused error hnumbers s)⟩)

/-- A check looks once. -/
theorem checkGasMeter_follows {identifier : String} {units : ℚ} {choice : Nat}
    {R : List (World × World) → Except String Unit → Prop}
    (h : ∀ s r, R (seen ++ [(s, s)]) r) :
    (checkGasMeter identifier units choice).Follows (watching (Does call)) R seen := by
  refine follows_bind (follows_look fun s => ?_)
  dsimp only
  split
  · exact h s (.ok ())
  · -- Each of the three checks may stop it, after the one look.
    refine follows_bind (follows_require (fun _ => ?_) fun _ => h s _)
    refine follows_bind (follows_require (fun _ => ?_) fun _ => h s _)
    exact follows_require (fun _ => h s _) fun _ => h s _

/-- A meter that is saved is the one that was found, charged or paused. -/
theorem does_setMeter {s t : World} {meter meter' : GasMeter} {id : Nat} {identifier : String}
    {choice : Nat} (hfound : s.meterOf identifier choice = some (meter, id))
    (howner : (meter'.programId, meter'.accountId) = (meter.programId, meter.accountId)) :
    Does call (seen ++ [(s, s)]) t (t.setMeter id meter') :=
  .inr (.inr (.inr ⟨id, meter, meter', ⟨(s, s), by simp, meterOf_mem hfound⟩, howner, rfl⟩))

/-- Saving a meter that was found changes it or is refused, by the numbers of the
    row. -/
theorem follows_saveMeter {s : World} {meter meter' : GasMeter} {id : Nat} {identifier : String}
    {choice : Nat} {R : List (World × World) → Except String Unit → Prop}
    (hfound : s.meterOf identifier choice = some (meter, id))
    (howner : (meter'.programId, meter'.accountId) = (meter.programId, meter.accountId))
    (hstored : columns.refusal meter'.numbers = none →
      ∀ t, R (seen ++ [(s, s)] ++ [(t, t.setMeter id meter')]) (.ok ()))
    (hrefused : ∀ error, columns.refusal meter'.numbers = some error →
      ∀ t, R (seen ++ [(s, s)] ++ [(t, t)]) (.error error)) :
    (gasMeterRepository.save columns id meter').Follows (watching (Does call)) R
      (seen ++ [(s, s)]) := by
  unfold gasMeterRepository.save
  cases hnumbers : columns.refusal meter'.numbers with
  | none =>
      exact follows_bind (follows_watching fun t =>
        ⟨does_setMeter hfound howner, follows_compute (hstored hnumbers t)⟩)
  | some error =>
      exact follows_bind (follows_watching fun t =>
        ⟨.inl rfl, follows_compute (hrefused error hnumbers t)⟩)

/-- What consuming gas does, and when. -/
theorem consumeGas_follows {identifier : String} {units : ℚ} {choice : Nat}
    {R : List (World × World) → Except String Unit → Prop}
    (hnone : ∀ s, s.meterOf identifier choice = none → R (seen ++ [(s, s)]) (.ok ()))
    (hcharged : ∀ s t meter id, s.meterOf identifier choice = some (meter, id) →
      R (seen ++ [(s, s)] ++ [(t, t.setMeter id (meter.charged columns units))]) (.ok ()))
    (hrefused : ∀ s rest meter id message, s.meterOf identifier choice = some (meter, id) →
      ¬(meter.status = .ACTIVE ∧ units ≤ meter.gasRemaining ∧
        columns.refusal (meter.charged columns units).numbers = none) →
      R (seen ++ (s, s) :: rest) (.error message)) :
    (consumeGas columns identifier units choice).Follows (watching (Does call)) R seen := by
  refine follows_bind (follows_look fun s => ?_)
  dsimp only
  split
  · next hfound => exact hnone s hfound
  · next meter id hfound =>
      -- A refusal after one more access.
      have hone : ∀ t u message, ¬(meter.status = .ACTIVE ∧ units ≤ meter.gasRemaining ∧
          columns.refusal (meter.charged columns units).numbers = none) →
          R (seen ++ [(s, s)] ++ [(t, u)]) (.error message) := by
        intro t u message hnot
        have := hrefused s [(t, u)] meter id message hfound hnot
        rwa [List.append_cons] at this
      refine follows_bind (follows_require (fun hactive => ?_) fun hinactive => ?_)
      · dsimp only
        split
        · next hless =>
            -- An active meter that has too little.
            have hnot : ¬(meter.status = .ACTIVE ∧ units ≤ meter.gasRemaining ∧
                columns.refusal (meter.charged columns units).numbers = none) :=
              fun h => h.2.1.not_gt hless
            split
            · -- It pauses itself, which is one access more.
              exact follows_bind (follows_saveMeter hfound rfl (fun _ t => hone t _ _ hnot)
                fun _ _ t => hone t _ _ hnot)
            · exact hrefused s [] meter id _ hfound hnot
        · refine follows_saveMeter hfound rfl (fun _ t => hcharged s t meter id hfound) ?_
          intro error hnumbers t
          refine hone t t error fun h => ?_
          rw [h.2.2] at hnumbers
          exact nomatch hnumbers
      · -- A meter that is not active is not touched.
        refine hrefused s [] meter id _ hfound fun h => ?_
        rw [h.1] at hinactive
        exact nomatch hinactive

/-- Nothing is sent, or it is checked and then sent. -/
theorem sendExecution_follows {units : ℚ}
    {R : List (World × World) → Except String String → Prop}
    (hunsent : ∀ s rest message, (∀ q ∈ rest, q.2 = q.1) →
      R (seen ++ (s, s) :: rest) (.error message))
    (hsent : ∀ s t signature,
      R (seen ++ [(s, s)] ++ [(t, { t with sent := t.sent ++ [call.1] })]) (.ok signature)) :
    (sendExecution call.1 call.2 units).Follows (watching (Does call)) R seen := by
  refine follows_bind (checkGasMeter_follows fun s r => ?_)
  -- Whatever stops it before the network, it has looked once.
  have hstop : ∀ message, R (seen ++ [(s, s)]) (.error message) :=
    fun message => hunsent s [] message fun _ h => absurd h List.not_mem_nil
  cases r with
  | error message => exact hstop message
  | ok _ =>
      refine follows_bind (follows_compute ?_)
      cases call.2.transaction with
      | error message => exact hstop message
      | ok _ =>
          refine follows_bind (follows_watching fun t => ?_)
          cases call.2.send with
          | ok signature => exact ⟨.inr (.inr (.inl rfl)), hsent s t signature⟩
          | error message =>
              refine ⟨.inl rfl, ?_⟩
              have := hunsent s [(t, t)] message fun q hq => by rw [List.mem_singleton.mp hq]
              rwa [List.append_cons] at this

/-- What comes after the sending settles the execution, whose numbers stay. -/
theorem settleExecution_follows {execution : RuntimeExecution}
    (hstatus : execution.status = .SUCCESS)
    {R : List (World × World) → Except String RuntimeExecution → Prop}
    (h : ∀ p4 rest settled, settled.numbers = execution.numbers →
      (∀ s, Settling columns call.1 call.2 execution.computeUnitsUsed
        (p4 :: rest ++ [(s, s.setExecution call.1 settled)])) →
      R (seen ++ p4 :: rest) (.ok settled)) :
    (settleExecution columns call.2 execution).Follows (watching (Does call)) R seen := by
  refine follows_bind (follows_attempt (follows_bind (follows_look fun s4 => follows_compute ?_)))
  -- Whether the slot is given decides if the meter is looked up.
  cases hslot : call.2.slot with
  | error message =>
      refine h (s4, s4) [] _ rfl fun s => .slotless ?_
      rintro ⟨slot, hok⟩
      rw [hslot] at hok
      exact nomatch hok
  | ok slotNumber =>
      refine follows_bind (follows_attempt (consumeGas_follows (fun s5 hnone => ?_)
        (fun s5 s6 meter id hfound => ?_) fun s5 rest meter id message hfound hnot => ?_))
      · have hsettled := h (s4, s4) [(s5, s5)] { execution with slotNumber := some slotNumber } rfl
          fun s => .free rfl rfl hnone rfl hstatus rfl
        rwa [List.append_cons] at hsettled
      · have hsettled := h (s4, s4)
          [(s5, s5), (s6, s6.setMeter id (meter.charged columns execution.computeUnitsUsed))]
          { execution with slotNumber := some slotNumber } rfl
          fun s => .charged rfl rfl hfound rfl rfl hstatus rfl
        rwa [List.append_cons, List.append_cons] at hsettled
      · have hsettled := h (s4, s4) ((s5, s5) :: rest)
          (RuntimeExecution.fail { execution with slotNumber := some slotNumber } message) rfl
          fun s => .refused rfl hfound hnot
        rwa [List.append_cons] at hsettled

/-- A row whose numbers are all whole is held by any columns. -/
theorem refusal_none {numbers : List (String × ℚ)} (h : ∀ number ∈ numbers, number.2.den = 1)
    (columns : Columns) : columns.refusal numbers = none := by
  cases columns with
  | exact => rfl
  | bigint =>
      have hfind : numbers.find? (fun number => number.2.den ≠ 1) = none := by
        rw [List.find?_eq_none]
        exact fun number hnumber => by simpa using h number hnumber
      rw [Columns.refusal, hfind]
      rfl

theorem whole_of_refusal {numbers : List (String × ℚ)} (h : Columns.bigint.refusal numbers = none) :
    ∀ number ∈ numbers, number.2.den = 1 := by
  intro number hnumber
  rw [Columns.refusal, Option.map_eq_none_iff, List.find?_eq_none] at h
  simpa using h number hnumber

/-- The record of an execution that has used nothing is held if its first one was. -/
theorem succeed_held {dto : ExecuteProgramDto} {program : Program} {signature : String}
    (hstart : columns.refusal (dto.running program).numbers = none)
    (hunits : columns = .bigint → unitsUsed (dto.units program) = 0) :
    columns.refusal ((dto.running program).succeed signature).numbers = none := by
  cases columns with
  | exact => rfl
  | bigint =>
      have hallocated := whole_of_refusal hstart ("bigint", dto.units program)
        (by simp [RuntimeExecution.numbers, ExecuteProgramDto.running])
      refine refusal_none ?_ .bigint
      simp only [RuntimeExecution.numbers, RuntimeExecution.succeed, ExecuteProgramDto.running,
        hunits rfl, List.forall_mem_cons, List.not_mem_nil, false_implies, implies_true, and_true]
      exact ⟨rfl, hallocated, by norm_num⟩

/-- Executions take one of the courses. -/
theorem executeProgram_follows (columns : Columns) (call : Execution) :
    (call.program columns).Follows (watching (Does call)) (Taken columns call) [] := by
  refine follows_bind (follows_bind (follows_look fun s0 =>
    follows_demand (fun program hprogram => ?_) fun _ => ?_))
  · refine follows_bind (follows_save (fun hstart s1 => ?_) fun error _ s1 => ?_)
    · -- From here on what goes wrong is recorded, if it can be.
      refine follows_bind (follows_attempt (sendExecution_follows
        (fun s2 rest message hrest => ?_) fun s2 s3 signature => ?_))
      · -- Nothing was sent, and the failure is recorded.
        refine follows_save (fun _ s => .unsent (fun q hq => ?_) rfl
          (by exact ExecutionStatus.noConfusion)) fun error hrefused s => ?_
        · simp only [List.nil_append, List.mem_append, List.mem_cons, List.not_mem_nil, or_false]
            at hq
          rcases hq with (rfl | rfl) | rfl | hq
          · exact .inl rfl
          · exact .inr ⟨_, rfl⟩
          · exact .inl rfl
          · exact .inl (hrest q hq)
        · -- The record has the numbers of the first, which was held.
          have hsame : columns.refusal (call.2.running program).numbers = some error := hrefused
          rw [hstart] at hsame
          exact nomatch hsame
      · refine follows_bind (settleExecution_follows rfl
          fun p4 rest settled hnumbers hsettling => ?_)
        refine follows_save (fun _ s => .sent rfl hprogram rfl rfl rfl (hsettling s))
          fun error hrefused s => .sent rfl hprogram rfl rfl rfl (.costly fun hunits => ?_)
        rw [hnumbers, succeed_held hstart hunits] at hrefused
        exact nomatch hrefused
    · refine .idle fun p hp => ?_
      simp only [List.nil_append, List.mem_append, List.mem_cons, List.not_mem_nil, or_false] at hp
      rcases hp with rfl | rfl <;> rfl
  · refine .idle fun p hp => ?_
    rw [List.nil_append] at hp
    rw [List.mem_singleton.mp hp]

/-! ### What stays -/

/-- Meters keep their owners, and programs are what they were. -/
structure Keeps (s t : World) : Prop where
  owners : t.owners = s.owners
  programs : t.programs = s.programs

theorem keeps_refl (s : World) : Keeps s s := ⟨rfl, rfl⟩

theorem keeps_trans {s t u : World} (h : Keeps s t) (h' : Keeps t u) : Keeps s u :=
  ⟨h'.owners.trans h.owners, h'.programs.trans h.programs⟩

theorem owners_setMeter {s : World} {id : Nat} (meter : GasMeter) {meter' : GasMeter}
    (hmeter : s.owners[id]? = some (meter.programId, meter.accountId))
    (howner : (meter'.programId, meter'.accountId) = (meter.programId, meter.accountId)) :
    (s.setMeter id meter').owners = s.owners := by
  -- The owners are written over with themselves.
  rcases List.getElem?_eq_some_iff.mp hmeter with ⟨hlt, hvalue⟩
  simp only [World.owners, World.setMeter, List.map_set, howner]
  exact (congrArg _ hvalue.symm).trans (List.set_getElem_self hlt)

theorem owner_of_meter {s : World} {id : Nat} {meter : GasMeter}
    (h : s.meters[id]? = some meter) :
    s.owners[id]? = some (meter.programId, meter.accountId) := by
  rw [World.owners, List.getElem?_map, h]
  rfl

/-- When the accesses after the sending find what they need: the slot is given,
    the meter is active and has enough, and it is saved as it was found. In
    `bigint` columns, besides, nothing is charged, and the meter is not used. -/
def Sure (columns : Columns) (call : Execution) (seen : List (World × World)) (s _ : World) :
    Prop :=
  call.1 ∈ s.sent →
    -- The fifth access asks for the slot of the signature.
    (seen.length = 4 → (∃ slot, call.2.slot = .ok slot) ∧
      (columns = .bigint → s.unitsCharged call.2 = 0)) ∧
    -- The sixth reads the meter that is to be charged.
    (seen.length = 5 → ∀ meter id, s.meterOf call.2.programId call.2.choice = some (meter, id) →
      meter.status = .ACTIVE ∧ s.unitsCharged call.2 ≤ meter.gasRemaining ∧
      columns.refusal meter.numbers = none ∧ (columns = .bigint → meter.gasUsed = 0)) ∧
    -- And the seventh saves it, which must still be the one that was read.
    (seen.length = 6 → ∀ p ∈ seen.getLast?, ∀ meter id,
      p.1.meterOf call.2.programId call.2.choice = some (meter, id) →
      s.meters[id]? = some meter)

instance (columns : Columns) (call : Execution) (seen : List (World × World)) (s t : World) :
    Decidable (Sure columns call seen s t) :=
  haveI : Decidable (∃ slot, call.2.slot = .ok slot) :=
    match call.2.slot with
    | .ok slot => isTrue ⟨slot, rfl⟩
    | .error _ => isFalse fun ⟨_, hno⟩ => nomatch hno
  decidable_of_iff (call.1 ∈ s.sent →
    (seen.length = 4 → (∃ slot, call.2.slot = .ok slot) ∧
      (columns = .bigint → s.unitsCharged call.2 = 0)) ∧
    (seen.length = 5 → ∀ found ∈ s.meterOf call.2.programId call.2.choice,
      found.1.status = .ACTIVE ∧ s.unitsCharged call.2 ≤ found.1.gasRemaining ∧
      columns.refusal found.1.numbers = none ∧ (columns = .bigint → found.1.gasUsed = 0)) ∧
    (seen.length = 6 → ∀ p ∈ seen.getLast?,
      ∀ found ∈ p.1.meterOf call.2.programId call.2.choice,
        s.meters[found.2]? = some found.1)) (by
    simp only [Sure, Prod.forall, Option.mem_def])

theorem execution_law (columns : Columns) :
    HistoryLaw Does (Sure columns) Keeps fun _ => True where
  refl := keeps_refl
  trans _ _ _ := keeps_trans
  step call seen s t _ hpast _ hdoes _ := by
    refine ⟨?_, trivial⟩
    rcases hdoes with rfl | ⟨execution, rfl⟩ | rfl |
      ⟨id, meter, meter', ⟨p, hp, hmeter⟩, howner, rfl⟩
    · exact keeps_refl _
    · exact ⟨rfl, rfl⟩
    · exact ⟨rfl, rfl⟩
    · -- The meter was found under the same owner.
      have hbefore := keeps_trans (hpast.access p hp) (hpast.past p hp)
      refine ⟨owners_setMeter meter ?_ howner, rfl⟩
      rw [hbefore.owners]
      exact owner_of_meter hmeter

end Follows

/-! ### One execution -/

namespace World

/-- What there is of an execution: whether it was sent, and how it is recorded. -/
def traces (place : Nat) (world : World) : Bool × Option RuntimeExecution :=
  (decide (place ∈ world.sent), world.executions place)

/-- The execution at a place is recorded as a success. -/
def Succeeded (world : World) (place : Nat) : Prop :=
  ∃ execution, world.executions place = some execution ∧ execution.status = .SUCCESS

/-- The units that are recorded at a place. -/
def unitsAt (world : World) (place : Nat) : ℚ :=
  ((world.executions place).map RuntimeExecution.computeUnitsUsed).getD 0

end World

/-- Executions leave the traces of others alone. -/
theorem traces_frame (call : Execution) (seen : List (World × World)) (s t : World) (place : Nat)
    (hdoes : Does call seen s t) (hplace : place ≠ call.1) : t.traces place = s.traces place := by
  rcases hdoes with rfl | ⟨execution, rfl⟩ | rfl | ⟨id, meter, meter', -, -, rfl⟩
  · rfl
  · exact Prod.ext rfl (Function.update_of_ne hplace ..)
  · simp only [World.traces, List.mem_append, List.mem_singleton, hplace, or_false]
  · rfl

theorem traces_setExecution (place : Nat) (s : World) (execution : RuntimeExecution) :
    (s.setExecution place execution).traces place = (decide (place ∈ s.sent), some execution) :=
  Prod.ext rfl (Function.update_self ..)

theorem traces_of_harmless {place : Nat} {p : World × World} (h : Harmless place p) :
    (p.2.traces place).1 = (p.1.traces place).1 := by
  rcases h with h | ⟨execution, h⟩
  · rw [h]
  · rw [h]
    rfl

/-- Harmless accesses send nothing. -/
theorem unsent_of_harmless {place : Nat} {seen : List (World × World)}
    {first last : Bool × Option RuntimeExecution} (h : ∀ q ∈ seen, Harmless place q)
    (hthreaded : Threaded (World.traces place) first seen last) : last.1 = first.1 :=
  threaded_kept Prod.fst (fun q hq => traces_of_harmless (h q hq)) hthreaded

/-- Digits that are written after nothing but a zero make the sum. -/
theorem plus_eq {columns : Columns} {stored : ℚ} (h : columns = .bigint → stored = 0)
    (amount : ℚ) : columns.plus stored amount = stored + amount := by
  cases columns with
  | exact => rfl
  | bigint => rw [Columns.plus, h rfl, zero_mul]

/-- A meter that is not used and charged nothing is held if it was before. -/
theorem charged_held {columns : Columns} {meter : GasMeter} {units : ℚ}
    (hmeter : columns.refusal meter.numbers = none) (hused : columns = .bigint → meter.gasUsed = 0)
    (hunits : columns = .bigint → units = 0) :
    columns.refusal (meter.charged columns units).numbers = none := by
  cases columns with
  | exact => rfl
  | bigint =>
      have hwhole := whole_of_refusal hmeter
      simp only [GasMeter.numbers, List.forall_mem_cons, List.not_mem_nil, false_implies,
        implies_true, and_true] at hwhole
      obtain ⟨hallocated, -, hremaining, hlimit, hperiod, hcount, -, hpeak, -, hpercent⟩ := hwhole
      have hgas : Columns.bigint.plus meter.gasUsed 0 = 0 := by
        rw [plus_eq hused, hused rfl, add_zero]
      have hoperations : (Columns.bigint.plus meter.operationCount 1).den = 1 := by
        have hcast : Columns.bigint.plus meter.operationCount 1 =
            ((meter.operationCount.num * 10 + 1 : ℤ) : ℚ) := by
          push_cast
          rw [Rat.coe_int_num_of_den_eq_one hcount, Columns.plus]
          exact congrArg (fun digits : ℚ => meter.operationCount * digits + 1) (pow_one 10)
        rw [hcast, Rat.den_intCast]
      refine refusal_none ?_ .bigint
      -- Nothing is used, so the average and the percentage are whole as well.
      simp only [GasMeter.numbers, GasMeter.charged, hgas, hunits rfl, sub_zero, zero_div, zero_mul,
        List.forall_mem_cons, List.not_mem_nil, false_implies, implies_true, and_true]
      refine ⟨hallocated, rfl, hremaining, hlimit, hperiod, hoperations, rfl, ?_, ?_, hpercent⟩
      · rcases max_choice meter.peakGasUsage 0 with hmax | hmax
        · rw [hmax]
          exact hpeak
        · rw [hmax]
          rfl
      · rw [max_eq_right (by norm_num)]
        rfl

theorem gasUsedOf_setMeter {columns : Columns} {s : World} {id : Nat} {meter : GasMeter} (units : ℚ)
    (hmeter : s.meters[id]? = some meter) (hused : columns = .bigint → meter.gasUsed = 0)
    (i : Nat) :
    (s.setMeter id (meter.charged columns units)).gasUsedOf i - s.gasUsedOf i =
      if i = id then units else 0 := by
  rw [World.gasUsedOf, getElem?_setMeter hmeter, World.gasUsedOf]
  by_cases hi : i = id
  · subst hi
    rw [if_pos rfl, if_pos rfl, hmeter]
    simp only [Option.map_some, Option.getD_some, GasMeter.charged, plus_eq hused]
    ring
  · -- The other meters are not saved.
    rw [if_neg hi, if_neg hi, sub_self]

theorem gasUsedOf_same {p : World × World} (h : p.2 = p.1) (id : Nat) :
    p.2.gasUsedOf id - p.1.gasUsedOf id = 0 := by
  rw [h, sub_self]

theorem gasUsedOf_harmless {place : Nat} {p : World × World} (h : Harmless place p) (id : Nat) :
    p.2.gasUsedOf id - p.1.gasUsedOf id = 0 := by
  rcases h with h | ⟨execution, h⟩
  · exact gasUsedOf_same h id
  · rw [h]
    exact sub_self _

/-- What an execution has made of the world: it is recorded as a success if it
    was sent, and has charged its meter if it was. -/
structure Accurate (call : Execution) (seen : List (World × World)) (s : World) : Prop where
  recorded : s.Succeeded call.1 ↔ call.1 ∈ s.sent
  charged : ∀ id, (seen.map fun p => p.2.gasUsedOf id - p.1.gasUsedOf id).sum =
    if call.1 ∈ s.sent ∧ s.meterId call.2 = some id then s.unitsAt call.1 else 0

section

variable {columns : Columns} {place : Nat} {dto : ExecuteProgramDto} {s : World}
  {seen : List (World × World)}

/-- An execution that was not sent has charged nothing. -/
theorem accurate_of_unsent (hsent : (s.traces place).1 = false)
    (hfailed : ∀ execution, s.executions place = some execution → execution.status ≠ .SUCCESS)
    (hharmless : ∀ p ∈ seen, Harmless place p) : Accurate (place, dto) seen s where
  recorded := by
    have hnot : place ∉ s.sent := of_decide_eq_false hsent
    constructor
    · rintro ⟨execution, hexecution, hsuccess⟩
      exact absurd hsuccess (hfailed execution hexecution)
    · exact fun hplace => absurd hplace hnot
  charged id := by
    have hnot : place ∉ s.sent := of_decide_eq_false hsent
    rw [if_neg fun h => hnot h.1]
    refine List.sum_eq_zero fun change hchange => ?_
    rcases List.mem_map.mp hchange with ⟨p, hp, rfl⟩
    exact gasUsedOf_harmless (hharmless p hp) id

/-- An execution that was sent and is recorded as a success. -/
theorem accurate_of_sent {execution : RuntimeExecution}
    (htraces : s.traces place = (true, some execution)) (hsuccess : execution.status = .SUCCESS)
    (hcharged : ∀ id, (seen.map fun p => p.2.gasUsedOf id - p.1.gasUsedOf id).sum =
      if s.meterId dto = some id then execution.computeUnitsUsed else 0) :
    Accurate (place, dto) seen s := by
  have hsent : place ∈ s.sent := of_decide_eq_true (congrArg Prod.fst htraces)
  have hexecution : s.executions place = some execution := congrArg Prod.snd htraces
  refine ⟨⟨fun _ => hsent, fun _ => ⟨execution, hexecution, hsuccess⟩⟩, fun id => ?_⟩
  -- What is recorded at the place is what was charged.
  rw [hcharged id, World.unitsAt, hexecution]
  simp only [hsent, true_and, Option.map_some, Option.getD_some]

theorem traces_sent {place : Nat} {p : World × World}
    (hsend : p.2 = { p.1 with sent := p.1.sent ++ [place] }) :
    (p.2.traces place).1 = true := by
  rw [hsend]
  exact decide_eq_true (List.mem_append_right _ (List.mem_singleton_self place))

theorem mem_of_traces {world world' : World} {place : Nat}
    (h : world.traces place = world'.traces place) (hsent : (world'.traces place).1 = true) :
    place ∈ world.sent :=
  of_decide_eq_true ((congrArg Prod.fst h).trans hsent)

/-- What is charged for an execution is what the meter it finds is asked for. -/
theorem unitsCharged_of_past {p q : World × World} {program : Program}
    (hprogram : p.1.programs.findOne dto.programId = some program) (hkeeps : Keeps p.1 q.1) :
    q.1.unitsCharged dto = unitsUsed (dto.units program) := by
  rw [World.unitsCharged, hkeeps.programs, hprogram]
  rfl

/-- An access that ended before now has left owners and programs as they are. -/
theorem keeps_of_past {p : World × World} (hpast : Past Keeps (fun _ => True) seen s)
    (hp : p ∈ seen) : Keeps p.1 s :=
  keeps_trans (hpast.access p hp) (hpast.past p hp)

theorem traces_of_save {p : World × World} {execution : RuntimeExecution}
    (hsave : p.2 = p.1.setExecution place execution) (hsent : place ∈ p.1.sent) :
    p.2.traces place = (true, some execution) := by
  rw [hsave, traces_setExecution]
  exact Prod.ext (decide_eq_true hsent) rfl

/-! #### After the sending -/

section

variable {p0 p1 p2 p3 p4 p5 p6 p7 : World × World} {program : Program}
  {rest : List (World × World)} {execution : RuntimeExecution} {units : ℚ} {meter : GasMeter}
  {id : Nat}

/-- The accesses up to the sending charge nothing. -/
theorem sum_of_sent (hfind : p0.2 = p0.1) (hsave : p1.2 = p1.1.setExecution place execution)
    (hcheck : p2.2 = p2.1) (hsend : p3.2 = { p3.1 with sent := p3.1.sent ++ [place] }) (id : Nat) :
    ((p0 :: p1 :: p2 :: p3 :: rest).map fun p => p.2.gasUsedOf id - p.1.gasUsedOf id).sum =
      (rest.map fun p => p.2.gasUsedOf id - p.1.gasUsedOf id).sum := by
  have hnothing : p3.2.gasUsedOf id - p3.1.gasUsedOf id = 0 := by
    rw [hsend]
    exact sub_self _
  simp only [List.map_cons, List.sum_cons, hnothing, gasUsedOf_same hfind, gasUsedOf_same hcheck,
    gasUsedOf_harmless (.inr ⟨execution, hsave⟩), zero_add]

/-- What is charged for an execution was settled when its program was looked up. -/
theorem unitsCharged_of_met {q : World × World}
    (hprogram : p0.1.programs.findOne dto.programId = some program)
    (hpast : Past Keeps (fun _ => True) (p0 :: seen) s) (hq : q ∈ seen) :
    q.1.unitsCharged dto = unitsUsed (dto.units program) := by
  have hkeeps : Keeps p0.1 q.1 := keeps_trans (hpast.access p0 (List.mem_cons_self ..))
    ((List.pairwise_cons.mp hpast.order).1 q hq)
  exact unitsCharged_of_past hprogram hkeeps

/-- An execution that finds its slot is not without one, and in `bigint` columns
    it has used nothing. -/
theorem slot_of_met (hprogram : p0.1.programs.findOne dto.programId = some program)
    (hmet : Met (Sure columns) (place, dto) (p0 :: p1 :: p2 :: p3 :: p4 :: rest))
    (hpast : Past Keeps (fun _ => True) (p0 :: p1 :: p2 :: p3 :: p4 :: rest) s)
    (hsent : place ∈ p4.1.sent) :
    (∃ slot, dto.slot = .ok slot) ∧ (columns = .bigint → unitsUsed (dto.units program) = 0) := by
  have hneeds := (hmet [p0, p1, p2, p3] p4 rest rfl hsent).1 rfl
  rwa [unitsCharged_of_met hprogram hpast (by simp)] at hneeds

/-- An execution that finds its meter active and with enough is not refused. -/
theorem enough_of_met (hprogram : p0.1.programs.findOne dto.programId = some program)
    (hmet : Met (Sure columns) (place, dto) (p0 :: p1 :: p2 :: p3 :: p4 :: p5 :: rest))
    (hpast : Past Keeps (fun _ => True) (p0 :: p1 :: p2 :: p3 :: p4 :: p5 :: rest) s)
    (hsent : place ∈ p5.1.sent)
    (hfound : p5.1.meterOf dto.programId dto.choice = some (meter, id)) :
    meter.status = .ACTIVE ∧ unitsUsed (dto.units program) ≤ meter.gasRemaining ∧
      columns.refusal meter.numbers = none ∧ (columns = .bigint → meter.gasUsed = 0) := by
  have henough := (hmet [p0, p1, p2, p3, p4] p5 rest rfl hsent).2.1 rfl meter id hfound
  rwa [unitsCharged_of_met hprogram hpast (by simp)] at henough

/-- Without a meter nothing is charged. -/
theorem sum_of_free (hpast : Past Keeps (fun _ => True) seen s) (hp : p5 ∈ seen)
    (hlook : p4.2 = p4.1) (hfind : p5.2 = p5.1)
    (hnone : p5.1.meterOf dto.programId dto.choice = none)
    (hsave : p6.2 = p6.1.setExecution place execution) (i : Nat) :
    ([p4, p5, p6].map fun p => p.2.gasUsedOf i - p.1.gasUsedOf i).sum =
      if s.meterId dto = some i then execution.computeUnitsUsed else 0 := by
  have hnoMeter : s.meterId dto = none := by
    rw [meterId_congr (keeps_of_past hpast hp).owners, World.meterId, hnone]
    rfl
  rw [hnoMeter, if_neg (by exact fun h => nomatch h)]
  simp only [List.map_cons, List.map_nil, List.sum_cons, List.sum_nil, gasUsedOf_same hlook,
    gasUsedOf_same hfind, gasUsedOf_harmless (.inr ⟨execution, hsave⟩), add_zero]

/-- A meter that is saved as it was found is charged. -/
theorem sum_of_charged (hpast : Past Keeps (fun _ => True) seen s) (hp : p5 ∈ seen)
    (hlook : p4.2 = p4.1) (hfind : p5.2 = p5.1)
    (hfound : p5.1.meterOf dto.programId dto.choice = some (meter, id))
    (hmeter : p6.1.meters[id]? = some meter) (hused : columns = .bigint → meter.gasUsed = 0)
    (hcharge : p6.2 = p6.1.setMeter id (meter.charged columns units))
    (hsave : p7.2 = p7.1.setExecution place execution) (hunits : execution.computeUnitsUsed = units)
    (i : Nat) :
    ([p4, p5, p6, p7].map fun p => p.2.gasUsedOf i - p.1.gasUsedOf i).sum =
      if s.meterId dto = some i then execution.computeUnitsUsed else 0 := by
  -- The lookup finds the same meter at the end, as owners stay.
  have hid : s.meterId dto = some id := by
    rw [meterId_congr (keeps_of_past hpast hp).owners, World.meterId, hfound]
    rfl
  rw [hid]
  simp only [List.map_cons, List.map_nil, List.sum_cons, List.sum_nil, gasUsedOf_same hlook,
    gasUsedOf_same hfind, gasUsedOf_harmless (.inr ⟨execution, hsave⟩), add_zero, zero_add]
  rw [hcharge, gasUsedOf_setMeter _ hmeter hused, hunits]
  simp only [Option.some.injEq, eq_comm]

/-- An execution that was sent and whose accesses find what they need is accurate. -/
theorem accurate_of_settling (hfind : p0.2 = p0.1)
    (hprogram : p0.1.programs.findOne dto.programId = some program)
    (hsave : p1.2 = p1.1.setExecution place execution) (hcheck : p2.2 = p2.1)
    (hsend : p3.2 = { p3.1 with sent := p3.1.sent ++ [place] })
    (hsettling : Settling columns place dto (unitsUsed (dto.units program)) rest)
    (hmet : Met (Sure columns) (place, dto) (p0 :: p1 :: p2 :: p3 :: rest))
    (hpast : Past Keeps (fun _ => True) (p0 :: p1 :: p2 :: p3 :: rest) s)
    (hrest : Threaded (World.traces place) (p3.2.traces place) rest (s.traces place)) :
    Accurate (place, dto) (p0 :: p1 :: p2 :: p3 :: rest) s := by
  have hsent := traces_sent hsend
  cases hsettling with
  | @slotless p4 rest hslot =>
      exact absurd (slot_of_met hprogram hmet hpast (mem_of_traces hrest.1 hsent)).1 hslot
  | @costly p4 rest hcost =>
      exact absurd (slot_of_met hprogram hmet hpast (mem_of_traces hrest.1 hsent)).2 hcost
  | @refused p4 p5 rest meter id hlook hfound hnot =>
      obtain ⟨h4, h5, -⟩ := hrest
      have hfree := (slot_of_met hprogram hmet hpast (mem_of_traces h4 hsent)).2
      rw [hlook, h4] at h5
      obtain ⟨hactive, henough, hheld, hused⟩ :=
        enough_of_met hprogram hmet hpast (mem_of_traces h5 hsent) hfound
      exact absurd ⟨hactive, henough, charged_held hheld hused hfree⟩ hnot
  | @free p4 p5 p6 execution hlook hfindMeter hnone hsaved hsuccess hunits =>
      obtain ⟨h4, h5, h6, hlast⟩ := hrest
      rw [hlook, h4] at h5
      rw [hfindMeter, h5] at h6
      have htraces := hlast.symm.trans (traces_of_save hsaved (mem_of_traces h6 hsent))
      refine accurate_of_sent htraces hsuccess fun i => ?_
      rw [sum_of_sent hfind hsave hcheck hsend]
      exact sum_of_free hpast (by simp) hlook hfindMeter hnone hsaved i
  | @charged p4 p5 p6 p7 meter id execution hlook hfindMeter hfound hcharge hsaved
    hsuccess hunits =>
      obtain ⟨h4, h5, h6, h7, hlast⟩ := hrest
      rw [hlook, h4] at h5
      rw [hfindMeter, h5] at h6
      -- Charging the meter leaves no trace of the execution.
      have hsame : p6.2.traces place = p6.1.traces place := by
        rw [hcharge]
        rfl
      rw [hsame, h6] at h7
      have htraces := hlast.symm.trans (traces_of_save hsaved (mem_of_traces h7 hsent))
      -- Nobody has saved the meter since it was found.
      have hneeds := hmet [p0, p1, p2, p3, p4, p5] p6 [p7] rfl (mem_of_traces h6 hsent)
      have hmeter := hneeds.2.2 rfl p5 rfl meter id hfound
      have hused := (enough_of_met hprogram hmet hpast (mem_of_traces h5 hsent) hfound).2.2.2
      refine accurate_of_sent htraces hsuccess fun i => ?_
      rw [sum_of_sent hfind hsave hcheck hsend]
      exact sum_of_charged hpast (by simp) hlook hfindMeter hfound hmeter hused hcharge
        hsaved hunits i

end

/-- Executions whose accesses find what they need are accurate. -/
theorem accurate_of_course (hcourse : Course columns place dto seen)
    (hmet : Met (Sure columns) (place, dto) seen)
    (hpast : Past Keeps (fun _ => True) seen s)
    (hthreaded : Threaded (World.traces place) (false, none) seen (s.traces place)) :
    Accurate (place, dto) seen s := by
  cases hcourse with
  | idle hidle =>
      -- Nothing has touched what there is of it, which is nothing.
      have hnothing := threaded_kept id (fun p hp => by rw [hidle p hp]) hthreaded
      apply accurate_of_unsent
      · exact congrArg Prod.fst hnothing
      · intro execution hexecution
        have hnone : s.executions place = none := congrArg Prod.snd hnothing
        rw [hexecution] at hnone
        exact nomatch hnone
      · exact fun p hp => .inl (hidle p hp)
  | @unsent before p execution hbefore hsave hfailed =>
      obtain ⟨hfirst, hlast⟩ := threaded_append.mp hthreaded
      have hunsent := unsent_of_harmless hbefore hfirst
      rw [hsave, traces_setExecution] at hlast
      apply accurate_of_unsent
      · rw [← hlast]
        exact hunsent
      · intro other hother
        have hsome : some execution = s.executions place := congrArg Prod.snd hlast
        rw [hother] at hsome
        exact Option.some.inj hsome ▸ hfailed
      · -- Neither what came before nor the record charges anything.
        exact List.forall_mem_append.mpr
          ⟨hbefore, List.forall_mem_singleton.mpr (.inr ⟨execution, hsave⟩)⟩
  | sent hfind hprogram hsave hcheck hsend hsettling =>
      obtain ⟨-, -, -, -, hrest⟩ := hthreaded
      exact accurate_of_settling hfind hprogram hsave hcheck hsend hsettling hmet hpast hrest

end

/-! ### All executions -/

/-- Meters have grown by what the requests on them that were sent have used, and
    those requests alone are recorded as successes. -/
structure Accounted (dto : ParallelExecutionDto) (world world' : World) : Prop where
  charged : ∀ id meter, world.meters[id]? = some meter →
    ∃ meter', world'.meters[id]? = some meter' ∧
      meter'.gasUsed = meter.gasUsed + (dto.calls.map fun call =>
        if call.1 ∈ world'.sent ∧ world.meterId call.2 = some id
        then world'.unitsAt call.1 else 0).sum
  recorded : ∀ call ∈ dto.calls, world'.Succeeded call.1 ↔ call.1 ∈ world'.sent

theorem places_nodup (dto : ParallelExecutionDto) : (dto.calls.map Prod.fst).Nodup := by
  have hplaces : dto.calls.map Prod.fst = dto.executions.zipIdx.map Prod.snd := by
    rw [ParallelExecutionDto.calls, List.map_map]
    rfl
  rw [hplaces, List.zipIdx_map_snd]
  exact List.nodup_range'

/-- Collecting the results records nothing but failures. -/
theorem collect_world (continueOnFailure : Bool) (results : List (Nat × Except String Unit))
    (world : World) : ∃ failures,
      (collect continueOnFailure results world).2 = { world with failures := failures } := by
  -- The first failure ends it, unless it is to continue.
  induction results generalizing world with
  | nil => exact ⟨world.failures, rfl⟩
  | cons result results ih =>
      rcases result with ⟨place, reason | done⟩
      · by_cases hcontinue : continueOnFailure
        · rw [collect, if_pos hcontinue]
          split
          · exact ih { world with
              failures := world.failures ++
                [{ programId := "unknown", status := .FAILED, errorMessage := some reason }] }
          · exact ⟨world.failures, rfl⟩
        · refine ⟨world.failures, ?_⟩
          rw [collect, if_neg hcontinue]
      · exact ih world

/-- Executions whose results there are have come to an end. -/
theorem outcomes_of_ended {calls : List (Watched World String Execution)}
    {results : List (Nat × Except String Unit)} (h : calls.mapM Ended = some results) :
    ∀ w ∈ calls, ∃ outcome, w.rest.outcome = some outcome := by
  induction calls generalizing results with
  | nil => exact fun _ hw => absurd hw List.not_mem_nil
  | cons w calls ih =>
      rw [List.mapM_cons] at h
      obtain ⟨result, hresult, hrest⟩ := Option.bind_eq_some_iff.mp h
      obtain ⟨others, hothers, -⟩ := Option.bind_eq_some_iff.mp hrest
      obtain ⟨outcome, houtcome, -⟩ := Option.map_eq_some_iff.mp hresult
      exact List.forall_mem_cons.mpr ⟨⟨outcome, houtcome⟩, ih hothers⟩

section

variable {columns : Columns} {dto : ParallelExecutionDto} {world : World} {moves : List Nat}

theorem calls_running :
    (running columns dto world moves).calls.map Watched.call = dto.calls := by
  have hstart : (begin columns dto world).calls.map Watched.call = dto.calls := by
    rw [begin, List.map_map]
    exact List.map_id _
  exact (calls_after_access (Execution.program columns) moves
    (begin columns dto world)).trans hstart

/-- Meters keep their places. -/
theorem meter_of_owners {world' : World} (howners : world'.owners = world.owners) {id : Nat}
    {meter : GasMeter} (hmeter : world.meters[id]? = some meter) :
    ∃ meter', world'.meters[id]? = some meter' := by
  have hlength := congrArg List.length howners
  rw [World.owners, World.owners, List.length_map, List.length_map] at hlength
  have hlt := (List.getElem?_eq_some_iff.mp hmeter).1
  exact ⟨_, List.getElem?_eq_getElem (hlength ▸ hlt)⟩

theorem gasUsedOf_eq {id : Nat} {meter : GasMeter} (hmeter : world.meters[id]? = some meter) :
    world.gasUsedOf id = meter.gasUsed := by
  rw [World.gasUsedOf, hmeter]
  rfl

/-- A meter changes by what all executions have changed. -/
theorem gasUsedOf_running (id : Nat) :
    (running columns dto world moves).store.gasUsedOf id =
      world.gasUsedOf id + (running columns dto world moves).change (World.gasUsedOf id) := by
  have hchange := change_after (World.gasUsedOf id) (Execution.program columns)
    (moves.map Move.access) (begin columns dto world)
  -- Before the first access nothing has changed.
  have hnothing : (begin columns dto world).change (World.gasUsedOf id) = 0 := by
    refine List.sum_eq_zero fun change hmem => ?_
    rcases List.mem_map.mp hmem with ⟨w, hw, rfl⟩
    rcases List.mem_map.mp hw with ⟨call, -, rfl⟩
    rfl
  rw [hnothing, sub_zero] at hchange
  exact sub_eq_iff_eq_add.mp hchange

/-- Executions that find what they need are accurate when all have ended. -/
theorem accurate_running
    (hsure : Along (record (Execution.program columns)) (fun m r _ _ => heeds (Sure columns) m r)
      (moves.map Move.access) (begin columns dto world))
    (hended : ∀ w ∈ (running columns dto world moves).calls,
      ∃ outcome, w.rest.outcome = some outcome) :
    (running columns dto world moves).store.owners = world.owners ∧
      ∀ w ∈ (running columns dto world moves).calls,
        Accurate w.call w.seen (running columns dto world moves).store := by
  have hbegin : Recalled Does (Sure columns) (Taken columns) Keeps (fun _ => True)
      (begin columns dto world) :=
    recalled_begin (executeProgram_follows columns) trivial dto.calls
  obtain ⟨hrecalled, hkeeps⟩ := extended_after (execution_law columns)
    (executeProgram_follows columns) hbegin hsure
  -- Every execution leaves traces under its own id only.
  have hown : Owned Prod.fst World.traces { world with executions := fun _ => none, sent := [] }
      (begin columns dto world) := owned_begin (Execution.program columns) (places_nodup dto)
  have howned := owned_accesses (execution_law columns) (executeProgram_follows columns)
    traces_frame hsure hbegin hown
  refine ⟨hkeeps.owners, fun w hw => ?_⟩
  obtain ⟨outcome, houtcome⟩ := hended w hw
  have hremembered := hrecalled.calls w hw
  exact accurate_of_course (follows_outcome hremembered.follows houtcome) hremembered.met
    hremembered.past (howned.own w hw)

/-- After executions that find what they need, meters are charged for what was
    sent, and that is recorded. -/
theorem accounted_running
    (hsure : Along (record (Execution.program columns)) (fun m r _ _ => heeds (Sure columns) m r)
      (moves.map Move.access) (begin columns dto world))
    (hended : ∀ w ∈ (running columns dto world moves).calls,
      ∃ outcome, w.rest.outcome = some outcome) :
    Accounted dto world (running columns dto world moves).store := by
  obtain ⟨howners, haccurate⟩ := accurate_running hsure hended
  constructor
  · intro id meter hmeter
    obtain ⟨meter', hmeter'⟩ := meter_of_owners howners hmeter
    refine ⟨meter', hmeter', ?_⟩
    rw [← gasUsedOf_eq hmeter', ← gasUsedOf_eq hmeter, gasUsedOf_running id, Recorded.change,
      ← calls_running, List.map_map]
    -- Each execution has changed the meter by what it is charged.
    refine congrArg _ (congrArg List.sum (List.map_congr_left fun w hw => ?_))
    rw [Function.comp_apply, ← meterId_congr howners]
    exact (haccurate w hw).charged id
  · intro call hcall
    rw [← calls_running] at hcall
    rcases List.mem_map.mp hcall with ⟨w, hw, rfl⟩
    exact (haccurate w hw).recorded

/-- When executions have found what they needed, what was sent is charged and
    recorded, whatever is made of the results. -/
theorem executeParallel_accounted {answer : Except String (List RuntimeExecution)} {world' : World}
    (hcheck : checkComputeUnits dto = .ok ())
    (hsure : Along (record (Execution.program columns)) (fun m r _ _ => heeds (Sure columns) m r)
      (moves.map Move.access) (begin columns dto world))
    (hreturns : executeParallel columns dto world moves = some (answer, world')) :
    Accounted dto world world' := by
  rw [executeParallel, hcheck] at hreturns
  obtain ⟨results, hresults, hcollect⟩ := Option.map_eq_some_iff.mp hreturns
  have hran := accounted_running hsure (outcomes_of_ended hresults)
  obtain ⟨failures, hworld⟩ := collect_world dto.continueOnFailure results
    (running columns dto world moves).store
  rw [hcollect] at hworld
  subst hworld
  exact ⟨hran.charged, hran.recorded⟩

end

/-- A program with a meter. -/
def sampleRuntime (maxComputeUnits : ℚ) : World where
  programs := Table.empty.save ⟨"program", maxComputeUnits⟩
  meters := [{
    programId := some "program"
    accountId := none
    gasAllocated := 1000000
    gasUsed := 0
    gasRemaining := 1000000
    gasLimitPerOperation := 200000
    resetPeriodSeconds := 0
    operationCount := 0
    averageGasPerOperation := 0
    peakGasUsage := 0
    efficiencyRating := 100
    alertThresholdPercent := 80
    autoPauseOnThreshold := false }]

/-- A request on the program that is sent. -/
def sampleRequest (signature : String) (slot : Int) : ExecuteProgramDto where
  programId := "program"
  send := .ok signature
  slot := .ok slot

/-- Two executions of one program, in the witness. -/
def sampleRequests : ParallelExecutionDto where
  executions := [sampleRequest "first" 1, sampleRequest "second" 2]

/-- One execution after the other. -/
def oneByOne : List Nat := List.replicate 8 0 ++ List.replicate 8 1

/-- Each access after that of the other execution. -/
def byTurns : List Nat := (List.replicate 8 [0, 1]).flatten

/-- Requests on the program that are all sent end in a world with a property. -/
def AllSent (columns : Columns) (maxComputeUnits : ℚ) (dto : ParallelExecutionDto)
    (moves : List Nat) (P : World → Prop) : Prop :=
  ∃ answer world', executeParallel columns dto (sampleRuntime maxComputeUnits) moves =
    some (answer, world') ∧ world'.sent.length = dto.executions.length ∧ P world'

section Samples

variable {columns : Columns} {maxComputeUnits : ℚ}

/-- When all executions have ended, what is made of the results leaves what they
    have written. -/
theorem allSent_of_running {P : World → Prop} (hcheck : checkComputeUnits dto = .ok ())
    (hended : ((running columns dto (sampleRuntime maxComputeUnits) moves).calls.mapM Ended).isSome)
    (hsent : (running columns dto (sampleRuntime maxComputeUnits) moves).store.sent.length =
      dto.executions.length)
    (h : ∀ answer failures, executeParallel columns dto (sampleRuntime maxComputeUnits) moves =
        some (answer, { (running columns dto (sampleRuntime maxComputeUnits) moves).store with
          failures := failures }) →
      P { (running columns dto (sampleRuntime maxComputeUnits) moves).store with
        failures := failures }) :
    AllSent columns maxComputeUnits dto moves P := by
  obtain ⟨results, hresults⟩ := Option.isSome_iff_exists.mp hended
  obtain ⟨failures, hworld⟩ := collect_world dto.continueOnFailure results
    (running columns dto (sampleRuntime maxComputeUnits) moves).store
  have hreturns : executeParallel columns dto (sampleRuntime maxComputeUnits) moves =
      some ((collect dto.continueOnFailure results
        (running columns dto (sampleRuntime maxComputeUnits) moves).store).1,
        { (running columns dto (sampleRuntime maxComputeUnits) moves).store with
          failures := failures }) := by
    rw [executeParallel, hcheck, ← hworld]
    simp only [hresults, Option.map_some]
  exact ⟨_, _, hreturns, hsent, h _ failures hreturns⟩

end Samples

/-- One after the other, on exact numbers and, if nothing is charged, in `bigint`
    columns. -/
theorem sampleRequests_accounted :
    AllSent .exact 50000 sampleRequests oneByOne
        (Accounted sampleRequests (sampleRuntime 50000)) ∧
      AllSent .bigint 0 sampleRequests oneByOne (Accounted sampleRequests (sampleRuntime 0)) :=
  ⟨allSent_of_running rfl (by decide +kernel) (by decide +kernel) fun _ _ hreturns =>
    executeParallel_accounted rfl (by decide +kernel) hreturns,
  allSent_of_running rfl (by decide +kernel) (by decide +kernel) fun _ _ hreturns =>
    executeParallel_accounted rfl (by decide +kernel) hreturns⟩

/-- A request that is sent and has used anything stays recorded as running in
    `bigint` columns. On exact numbers, taking turns, both executions find the meter
    before either has charged it, and it is charged for one of them. -/
theorem charges_lost :
    AllSent .bigint 50000 { executions := [sampleRequest "first" 1] } oneByOne (fun world' =>
      ¬Accounted { executions := [sampleRequest "first" 1] } (sampleRuntime 50000) world') ∧
    AllSent .exact 50000 sampleRequests byTurns (fun world' =>
      ¬Accounted sampleRequests (sampleRuntime 50000) world') := by
  constructor
  · refine allSent_of_running rfl (by decide +kernel) (by decide +kernel) fun _ _ _ h => ?_
    -- It was sent, and is recorded as running.
    have hsent : 0 ∈ (running .bigint { executions := [sampleRequest "first" 1] }
        (sampleRuntime 50000) oneByOne).store.sent := by decide +kernel
    have hrunning : ((running .bigint { executions := [sampleRequest "first" 1] }
        (sampleRuntime 50000) oneByOne).store.executions 0).map RuntimeExecution.status =
          some .RUNNING := by decide +kernel
    obtain ⟨execution, hexecution, hsuccess⟩ :=
      (h.recorded (0, sampleRequest "first" 1) (List.mem_singleton_self _)).mpr hsent
    have hstatus := congrArg (Option.map RuntimeExecution.status) hexecution
    rw [Option.map_some, hsuccess] at hstatus
    exact nomatch hrunning.symm.trans hstatus
  · refine allSent_of_running rfl (by decide +kernel) (by decide +kernel) fun _ _ _ h => ?_
    -- Two executions of 50000 units each leave a meter with 50000.
    have hsaved : (running .exact sampleRequests (sampleRuntime 50000) byTurns).store.meters[0]?.map
        GasMeter.gasUsed = some 50000 := by decide +kernel
    have hcharged : ((sampleRequests.calls.map fun call =>
        if call.1 ∈ (running .exact sampleRequests (sampleRuntime 50000) byTurns).store.sent ∧
          (sampleRuntime 50000).meterId call.2 = some 0
        then (running .exact sampleRequests (sampleRuntime 50000) byTurns).store.unitsAt call.1
        else 0).sum) = 100000 := by decide +kernel
    obtain ⟨meter', hmeter', hused⟩ := h.charged 0 _ rfl
    have hmap := hsaved.symm.trans (congrArg (Option.map GasMeter.gasUsed) hmeter')
    rw [Option.map_some, hused] at hmap
    have hsum : (50000 : ℚ) = 0 + 100000 :=
      (Option.some.inj hmap).trans (congrArg (fun sum : ℚ => 0 + sum) hcharged)
    norm_num at hsum

end Svm

end SvmCourse
