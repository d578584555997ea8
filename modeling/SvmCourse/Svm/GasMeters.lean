import Mathlib.Tactic.Linarith
import Mathlib.Tactic.Ring
import SvmCourse.Core.Machine
import SvmCourse.Svm.Runtime

/-!
# Gas Meters Add Up

What remains of a meter is what is allocated and not used, and nothing where
more is used than allocated. That can be the case after a reset to less than
what was used. What is then added to the allocation is added to the remainder
as well, although it only makes up for what was used too much. Everything else
keeps the meter in order.

## Main definitions

* `MeterCall`, `step`: Gas metering as a machine, with what was consumed.
* `MeterCall.Accepted`: What the requests accept.
* `Metered`: The meters are in order.
* `Faithful`: They are after a call, and consuming is within the allocation.
* `MeterCall.Coverable`: No meter is added to that is used beyond its allocation.

## Theorems

* `faithful_step`: Such calls keep the meters in order.
* `coverable_of_metered`: Other calls do not.
* `metering_iff`: Calls are faithful exactly when nothing is added to such a
  meter.
-/

namespace SvmCourse

namespace Svm

open Core Core.Prog Core.Machine

/-! ### Metering as a machine -/

/-- The calls on meters. -/
inductive MeterCall where
  | createGasMeter (dto : CreateGasMeterDto)
  | updateGasMeter (id : Nat) (dto : UpdateGasMeterDto)
  | consumeGas (identifier : String) (gasAmount : ℚ) (choice : Nat)
  | resetGasMeter (id : Nat) (dto : ResetGasMeterDto)

/-- What a call does, access by access. -/
def MeterCall.program : MeterCall → Service Unit
  | .createGasMeter dto => Svm.createGasMeter dto
  | .updateGasMeter id dto => Svm.updateGasMeter id dto
  | .consumeGas identifier gasAmount choice => Svm.consumeGas .exact identifier gasAmount choice
  | .resetGasMeter id dto => Svm.resetGasMeter id dto

/-- The world, and what was consumed of each meter since its last full reset. -/
structure Metering where
  world : World
  consumed : Nat → ℚ := fun _ => 0

/-- What was consumed after a call that has succeeded. -/
def MeterCall.consumes (call : MeterCall) (metering : Metering) : Nat → ℚ :=
  match call with
  | .consumeGas identifier gasAmount choice =>
    match metering.world.meterOf identifier choice with
    | some (_, id) =>
      Function.update metering.consumed id (metering.consumed id + gasAmount)
    | none => metering.consumed
  | .resetGasMeter id dto =>
    -- A full reset starts the count again, a new allocation does not.
    if dto.fullReset.toOption = some true then Function.update metering.consumed id 0
    else metering.consumed
  | .createGasMeter _ | .updateGasMeter _ _ => metering.consumed

/-- One call on the meters, which notes what was consumed. -/
def step (metering : Metering) (call : MeterCall) : Except String Unit × Metering :=
  let (answer, world) := call.program.eval metering.world
  (answer, { world, consumed := match answer with
    | .ok _ => call.consumes metering
    | .error _ => metering.consumed })

/-! ### Requests -/

/-- A value that is given is within bounds. -/
def Given.Within {α : Type} (P : α → Prop) (given : Given α) : Prop :=
  ∀ a, given = .value a → P a

/-- What the requests accept, and positive amounts. -/
def MeterCall.Accepted : MeterCall → Prop
  | .createGasMeter dto => 1 ≤ dto.gasAllocated ∧
      dto.gasLimitPerOperation.Within (1 ≤ ·) ∧ dto.resetPeriodSeconds.Within (0 ≤ ·) ∧
      dto.alertThresholdPercent.Within fun percent => 1 ≤ percent ∧ percent ≤ 100
  | .updateGasMeter _ dto => dto.addGasAllocation.Within (1 ≤ ·) ∧
      dto.gasLimitPerOperation.Within (1 ≤ ·) ∧ dto.resetPeriodSeconds.Within (0 ≤ ·) ∧
      dto.alertThresholdPercent.Within fun percent => 1 ≤ percent ∧ percent ≤ 100
  | .consumeGas _ gasAmount _ => 0 < gasAmount
  | .resetGasMeter _ dto => dto.newAllocation.Within (1 ≤ ·)

theorem Given.within_of_truthy {P : ℚ → Prop} {given : Given ℚ} {a : ℚ} (h : given.Within P)
    (ha : given.truthy = some a) : P a := by
  cases given with
  | absent => exact nomatch ha
  | null => exact nomatch ha
  | value b =>
      have hb := (Option.filter_eq_some_iff.mp ha).1
      cases hb
      exact h _ rfl

/-! ### Meters in order -/

/-- What remains is what is allocated and not used, if there is any. -/
def GasMeter.Balanced (meter : GasMeter) : Prop :=
  meter.gasRemaining = max 0 (meter.gasAllocated - meter.gasUsed)

/-- All meters are in order, and what is used is what was consumed. -/
def Metered (metering : Metering) : Prop :=
  ∀ id meter, metering.world.meters[id]? = some meter →
    meter.Balanced ∧ meter.gasUsed = metering.consumed id

/-- The numbers that a rejected call must not change. -/
def GasMeter.figures (meter : GasMeter) : ℚ × ℚ × ℚ :=
  (meter.gasAllocated, meter.gasUsed, meter.gasRemaining)

/-- The meters are in order after the call. Consuming leaves the meter within its
    allocation, or leaves the figures alone. -/
structure Faithful (call : MeterCall) (before : Metering) (answer : Except String Unit)
    (after : Metering) : Prop where
  metered : Metered after
  within : ∀ identifier gasAmount choice, call = .consumeGas identifier gasAmount choice →
    answer = .ok () → ∀ meter id, before.world.meterOf identifier choice = some (meter, id) →
      ∀ meter', after.world.meters[id]? = some meter' → meter'.gasUsed ≤ meter'.gasAllocated
  unchanged : ∀ identifier gasAmount choice, call = .consumeGas identifier gasAmount choice →
    ∀ message, answer = .error message →
      after.world.meters.map GasMeter.figures = before.world.meters.map GasMeter.figures

/-- No allocation is added to a meter that is used beyond its allocation. -/
def MeterCall.Coverable (call : MeterCall) (metering : Metering) : Prop :=
  match call with
  -- An update that the table refuses saves nothing.
  | .updateGasMeter id dto =>
    ∀ meter gas, metering.world.meters[id]? = some meter → dto.addGasAllocation.truthy = some gas →
      (∀ column ∈ dto.columns, column.2 = false) → meter.gasUsed ≤ meter.gasAllocated
  | .createGasMeter _ | .consumeGas _ _ _ | .resetGasMeter _ _ => True

/-- What keeps the meters in order. -/
structure Sound (metering : Metering) : Prop where
  metered : Metered metering
  allocated : ∀ meter ∈ metering.world.meters, 1 ≤ meter.gasAllocated
  rest : ∀ id, metering.world.meters[id]? = none → metering.consumed id = 0

/-! ### What the calls do -/

section

variable {world : World} {id : Nat} {meter : GasMeter}

theorem eval_requireColumns (columns : List (String × Bool)) (world : World) :
    (∃ message, (requireColumns columns).eval world = (.error message, world) ∧
      ¬∀ column ∈ columns, column.2 = false) ∨
    (requireColumns columns).eval world = (.ok (), world) ∧
      ∀ column ∈ columns, column.2 = false := by
  -- The first column that is null raises, and nothing is written before.
  induction columns with
  | nil => exact .inr ⟨rfl, fun _ h => absurd h List.not_mem_nil⟩
  | cons column columns ih =>
      cases hnull : column.2 with
      | true =>
          have hsome : ¬∀ c ∈ column :: columns, c.2 = false := by
            intro h
            rw [h column (List.mem_cons_self ..)] at hnull
            exact Bool.false_ne_true hnull
          rw [requireColumns, each, hnull]
          exact .inl ⟨_, rfl, hsome⟩
      | false =>
          have hstep : (requireColumns (column :: columns)).eval world =
              (requireColumns columns).eval world := by
            simp only [requireColumns, each, hnull]
            rfl
          rw [hstep]
          rcases ih with ⟨message, hmessage, hsome⟩ | ⟨hok, hnone⟩
          · exact .inl ⟨message, hmessage, fun h =>
              hsome fun c hc => h c (List.mem_cons_of_mem _ hc)⟩
          · exact .inr ⟨hok, List.forall_mem_cons.mpr ⟨hnull, hnone⟩⟩

theorem eval_getGasMeter (id : Nat) (world : World) :
    (getGasMeter id).eval world = match world.meters[id]? with
      | some meter => (.ok meter, world)
      | none => (.error s!"Gas meter with ID {id} not found", world) := by
  rw [getGasMeter, bind_eq, eval_bind]
  simp only [gasMeterRepository.findOne, query, eval_perform]
  cases world.meters[id]? <;> rfl

theorem meterOf_mem {identifier : String} {choice : Nat}
    (h : world.meterOf identifier choice = some (meter, id)) : world.meters[id]? = some meter := by
  have hmem := List.mem_of_getElem? h
  rw [World.metersOf, List.mem_filter, List.mk_mem_zipIdx_iff_getElem?] at hmem
  exact hmem.1

theorem createGasMeter_cases (dto : CreateGasMeterDto) (world : World) :
    (∃ message, (createGasMeter dto).eval world = (.error message, world)) ∨
    ∃ meter, meter.gasAllocated = dto.gasAllocated ∧ meter.gasUsed = 0 ∧
      meter.gasRemaining = dto.gasAllocated ∧
      (createGasMeter dto).eval world =
        (.ok (), { world with meters := world.meters ++ [meter] }) := by
  rw [createGasMeter, bind_eq]
  rcases eval_requireColumns [("gas_limit_per_operation", dto.gasLimitPerOperation.isNull),
    ("reset_period_seconds", dto.resetPeriodSeconds.isNull)] world
      with ⟨message, hnull, -⟩ | ⟨hok, -⟩
  · exact .inl ⟨message, eval_bind_error hnull⟩
  · rw [eval_bind_ok hok]
    exact .inr ⟨_, rfl, rfl, rfl, rfl⟩

/-- The meter that an update saves. -/
def UpdateGasMeterDto.update (dto : UpdateGasMeterDto) (meter : GasMeter) : GasMeter :=
  dto.assign (match dto.addGasAllocation.truthy with
    | some gas => meter.topUp gas
    | none => meter)

theorem updateGasMeter_eq {dto : UpdateGasMeterDto} (hmeter : world.meters[id]? = some meter)
    (hcolumns : ∀ column ∈ dto.columns, column.2 = false) :
    (updateGasMeter id dto).eval world = (.ok (), world.setMeter id (dto.update meter)) := by
  have hget := eval_getGasMeter id world
  rw [hmeter] at hget
  rw [updateGasMeter, bind_eq, eval_bind_ok hget]
  rcases eval_requireColumns dto.columns world with ⟨message, -, hnull⟩ | ⟨hok, -⟩
  · exact absurd hcolumns hnull
  · exact eval_bind_ok hok

theorem updateGasMeter_cases (id : Nat) (dto : UpdateGasMeterDto) (world : World) :
    (∃ message, (updateGasMeter id dto).eval world = (.error message, world)) ∨
    ∃ meter, world.meters[id]? = some meter ∧ ∀ column ∈ dto.columns, column.2 = false := by
  have hget := eval_getGasMeter id world
  cases hmeter : world.meters[id]? with
  | none =>
      rw [hmeter] at hget
      exact .inl ⟨_, by rw [updateGasMeter, bind_eq, eval_bind_error hget]⟩
  | some meter =>
      rw [hmeter] at hget
      -- A column that is given as null is refused by the table.
      rcases eval_requireColumns dto.columns world with ⟨message, hnull, -⟩ | ⟨-, hcolumns⟩
      · refine .inl ⟨message, ?_⟩
        rw [updateGasMeter, bind_eq, eval_bind_ok hget]
        exact eval_bind_error hnull
      · exact .inr ⟨meter, rfl, hcolumns⟩

/-- The meter that a reset saves. -/
def ResetGasMeterDto.reset (dto : ResetGasMeterDto) (meter : GasMeter) : GasMeter :=
  if dto.fullReset.toOption = some true then meter.fullReset
  else
    match dto.newAllocation.truthy with
    | some newAllocation => meter.reallocate newAllocation
    | none => meter

theorem resetGasMeter_cases (id : Nat) (dto : ResetGasMeterDto) (world : World) :
    (∃ message, (resetGasMeter id dto).eval world = (.error message, world)) ∨
    ∃ meter, world.meters[id]? = some meter ∧
      (resetGasMeter id dto).eval world = (.ok (), world.setMeter id (dto.reset meter)) := by
  have hget := eval_getGasMeter id world
  cases hmeter : world.meters[id]? with
  | none =>
      rw [hmeter] at hget
      exact .inl ⟨_, by rw [resetGasMeter, bind_eq, eval_bind_error hget]⟩
  | some meter =>
      rw [hmeter] at hget
      refine .inr ⟨meter, rfl, ?_⟩
      rw [resetGasMeter, bind_eq, eval_bind_ok hget]
      rfl

/-- Gas is consumed without a meter or from an active one that has enough, or the
    call is rejected and at most the status has changed. -/
theorem consumeGas_cases (identifier : String) (gasAmount : ℚ) (choice : Nat) (world : World) :
    (world.meterOf identifier choice = none ∧
      (consumeGas .exact identifier gasAmount choice).eval world = (.ok (), world)) ∨
    (∃ meter id, world.meterOf identifier choice = some (meter, id) ∧
      gasAmount ≤ meter.gasRemaining ∧ (consumeGas .exact identifier gasAmount choice).eval world =
        (.ok (), world.setMeter id (meter.charged .exact gasAmount))) ∨
    (∃ message, (consumeGas .exact identifier gasAmount choice).eval world =
      (.error message, world)) ∨
    ∃ meter id message, world.meterOf identifier choice = some (meter, id) ∧
      (consumeGas .exact identifier gasAmount choice).eval world =
        (.error message, world.setMeter id { meter with status := .EXCEEDED }) := by
  have hfind : (gasMeterRepository.findBy identifier choice).eval world =
      (.ok (world.meterOf identifier choice), world) := rfl
  rw [consumeGas, bind_eq, eval_bind_ok hfind]
  cases hfound : world.meterOf identifier choice with
  | none => exact .inl ⟨rfl, rfl⟩
  | some found =>
      rcases found with ⟨meter, id⟩
      -- The checks in the order the service makes them.
      by_cases hactive : meter.status = .ACTIVE
      · simp only [hactive, decide_true]
        by_cases hless : meter.gasRemaining < gasAmount
        · simp only [if_pos hless]
          -- Too little is left: only a meter that pauses itself is saved.
          by_cases hauto : meter.autoPauseOnThreshold = true
          · simp only [if_pos hauto]
            exact .inr (.inr (.inr ⟨meter, id, _, rfl, rfl⟩))
          · simp only [if_neg hauto]
            exact .inr (.inr (.inl ⟨_, rfl⟩))
        · simp only [if_neg hless]
          exact .inr (.inl ⟨meter, id, rfl, not_lt.mp hless, rfl⟩)
      · simp only [hactive, decide_false]
        exact .inr (.inr (.inl ⟨_, rfl⟩))

end

/-! ### One call -/

section

variable {metering : Metering} {id : Nat} {meter meter' : GasMeter}

theorem getElem?_setMeter {world : World} (h : world.meters[id]? = some meter) (i : Nat) :
    (world.setMeter id meter').meters[i]? = if i = id then some meter' else world.meters[i]? := by
  simp only [World.setMeter]
  by_cases hi : i = id
  · rw [hi, List.getElem?_set_self (List.getElem?_eq_some_iff.mp h).1, if_pos rfl]
  · rw [List.getElem?_set_ne (Ne.symm hi), if_neg hi]

/-- Saving a meter that is in order, with what was consumed of it. -/
theorem sound_setMeter (h : Sound metering) (hmeter : metering.world.meters[id]? = some meter)
    (hbalanced : meter'.Balanced) (hallocated : 1 ≤ meter'.gasAllocated) :
    Sound { world := metering.world.setMeter id meter'
            consumed := Function.update metering.consumed id meter'.gasUsed } where
  metered i m hm := by
    rw [getElem?_setMeter hmeter] at hm
    -- The meter that is saved, or one that stays.
    by_cases hi : i = id
    · subst hi
      rw [if_pos rfl] at hm
      cases hm
      exact ⟨hbalanced, by simp only [Function.update_self]⟩
    · rw [if_neg hi] at hm
      have hold := h.metered i m hm
      exact ⟨hold.1, by simpa only [Function.update_of_ne hi] using hold.2⟩
  allocated m hm := by
    rcases List.mem_or_eq_of_mem_set hm with hm | rfl
    · exact h.allocated m hm
    · exact hallocated
  rest i hnone := by
    rw [getElem?_setMeter hmeter] at hnone
    by_cases hi : i = id
    · rw [if_pos hi] at hnone
      exact nomatch hnone
    · rw [if_neg hi] at hnone
      simpa only [Function.update_of_ne hi] using h.rest i hnone

/-- The same for a meter of which as much was used as before. -/
theorem sound_setMeter_same (h : Sound metering)
    (hmeter : metering.world.meters[id]? = some meter) (hbalanced : meter'.Balanced)
    (hallocated : 1 ≤ meter'.gasAllocated) (hused : meter'.gasUsed = meter.gasUsed) :
    Sound { world := metering.world.setMeter id meter', consumed := metering.consumed } := by
  have hset := sound_setMeter h hmeter hbalanced hallocated
  rwa [hused, (h.metered id meter hmeter).2, Function.update_eq_self] at hset

theorem GasMeter.balanced_charged {gasAmount : ℚ} (h : meter.Balanced) (hpos : 0 < gasAmount)
    (hle : gasAmount ≤ meter.gasRemaining) :
    (meter.charged .exact gasAmount).Balanced ∧
      (meter.charged .exact gasAmount).gasUsed ≤ (meter.charged .exact gasAmount).gasAllocated := by
  -- Something remains, so the maximum is not the zero.
  have hmax : meter.gasRemaining = meter.gasAllocated - meter.gasUsed := by
    rcases max_choice 0 (meter.gasAllocated - meter.gasUsed) with hzero | hleft
    · rw [GasMeter.Balanced, hzero] at h
      exact absurd (hpos.trans_le hle) h.not_gt
    · exact h.trans hleft
  have hwithin : meter.gasUsed + gasAmount ≤ meter.gasAllocated := by linarith
  refine ⟨?_, hwithin⟩
  simp only [GasMeter.Balanced, GasMeter.charged, Columns.plus]
  rw [max_eq_right (sub_nonneg.mpr hwithin), hmax]
  ring

theorem GasMeter.balanced_reallocate (meter : GasMeter) (newAllocation : ℚ) :
    (meter.reallocate newAllocation).Balanced := by
  unfold GasMeter.reallocate GasMeter.Balanced
  split
  · next hless => exact (max_eq_left hless.le).symm
  · next hnot => exact (max_eq_right (not_lt.mp hnot)).symm

theorem GasMeter.gasAllocated_reallocate (meter : GasMeter) (newAllocation : ℚ) :
    (meter.reallocate newAllocation).gasAllocated = newAllocation := by
  unfold GasMeter.reallocate
  split <;> rfl

theorem GasMeter.gasUsed_reallocate (meter : GasMeter) (newAllocation : ℚ) :
    (meter.reallocate newAllocation).gasUsed = meter.gasUsed := by
  unfold GasMeter.reallocate
  split <;> rfl

/-- What is added to an allocation goes to the remainder, exactly if not more is
    used than allocated. -/
theorem GasMeter.balanced_topUp_iff {gas : ℚ} (h : meter.Balanced) (hgas : 0 < gas) :
    (meter.topUp gas).Balanced ↔ meter.gasUsed ≤ meter.gasAllocated := by
  simp only [GasMeter.Balanced, GasMeter.topUp]
  rw [h]
  by_cases hle : meter.gasUsed ≤ meter.gasAllocated
  · simp only [hle, iff_true]
    -- The remainder and the allocation grow alike.
    rw [max_eq_right (sub_nonneg.mpr hle), max_eq_right (by linarith)]
    ring
  · simp only [hle, iff_false]
    -- The remainder was zero and has grown, what is not used is less.
    rw [max_eq_left (by linarith)]
    intro hcontra
    rcases max_choice 0 (meter.gasAllocated + gas - meter.gasUsed) with hzero | hright
    · rw [hzero] at hcontra
      linarith
    · rw [hright] at hcontra
      linarith

theorem balanced_assign (dto : UpdateGasMeterDto) (meter : GasMeter) :
    (dto.assign meter).Balanced ↔ meter.Balanced := Iff.rfl

/-! ### Runs -/

variable {call : MeterCall}

/-- A rejected call that changes nothing is faithful to meters in order. -/
theorem faithful_of_same (answer : Except String Unit) (h : Sound metering)
    (hstep : step metering call = (answer, metering))
    (hwithin : ∀ identifier gasAmount choice, call = .consumeGas identifier gasAmount choice →
      answer = .ok () → metering.world.meterOf identifier choice = none) :
    Sound (step metering call).2 ∧
      Faithful call metering (step metering call).1 (step metering call).2 := by
  rw [hstep]
  refine ⟨h, h.metered, fun identifier gasAmount choice hcall hok meter id hfound => ?_,
    fun _ _ _ _ _ _ => rfl⟩
  rw [hwithin identifier gasAmount choice hcall hok] at hfound
  exact nomatch hfound

/-- A call that is not consuming is faithful when the meters are in order. -/
theorem faithful_of_sound (hcall : ∀ identifier gasAmount choice,
    call ≠ .consumeGas identifier gasAmount choice) (h : Sound (step metering call).2) :
    Sound (step metering call).2 ∧
      Faithful call metering (step metering call).1 (step metering call).2 :=
  ⟨h, h.metered, fun _ _ _ hc => absurd hc (hcall _ _ _), fun _ _ _ hc => absurd hc (hcall _ _ _)⟩

theorem sound_createGasMeter {dto : CreateGasMeterDto} (h : Sound metering)
    (haccepted : (MeterCall.createGasMeter dto).Accepted) :
    Sound (step metering (.createGasMeter dto)).2 := by
  rcases createGasMeter_cases dto metering.world with
    ⟨message, hrejected⟩ | ⟨meter, hallocated, hused, hremaining, hcreated⟩
  · simp only [step, MeterCall.program, hrejected]
    exact h
  · simp only [step, MeterCall.program, hcreated, MeterCall.consumes]
    have hone : 1 ≤ meter.gasAllocated := hallocated ▸ haccepted.1
    have hbalanced : meter.Balanced := by
      rw [GasMeter.Balanced, hremaining, hused, sub_zero, ← hallocated,
        max_eq_right (zero_le_one.trans hone)]
    refine ⟨fun id m hm => ?_, fun m hm => ?_, fun id hnone => ?_⟩
    · -- The new meter has used nothing, and nothing was consumed of it.
      by_cases hid : id = metering.world.meters.length
      · subst hid
        rw [List.getElem?_concat_length] at hm
        cases hm
        exact ⟨hbalanced, hused.trans (h.rest _ (List.getElem?_eq_none le_rfl)).symm⟩
      · have hlt : id < metering.world.meters.length := by
          have hlen := (List.getElem?_eq_some_iff.mp hm).1
          rw [List.length_append, List.length_singleton] at hlen
          omega
        rw [List.getElem?_append_left hlt] at hm
        exact h.metered id m hm
    · rcases List.mem_append.mp hm with hm | hm
      · exact h.allocated m hm
      · exact List.mem_singleton.mp hm ▸ hone
    · rw [List.getElem?_eq_none_iff, List.length_append] at hnone
      exact h.rest id (List.getElem?_eq_none (by omega))

theorem sound_updateGasMeter {dto : UpdateGasMeterDto} (h : Sound metering)
    (haccepted : (MeterCall.updateGasMeter id dto).Accepted)
    (hcoverable : (MeterCall.updateGasMeter id dto).Coverable metering) :
    Sound (step metering (.updateGasMeter id dto)).2 := by
  rcases updateGasMeter_cases id dto metering.world with
    ⟨message, hrejected⟩ | ⟨meter, hmeter, hcolumns⟩
  · simp only [step, MeterCall.program, hrejected]
    exact h
  · simp only [step, MeterCall.program, updateGasMeter_eq hmeter hcolumns, MeterCall.consumes]
    have hone := h.allocated meter (List.mem_of_getElem? hmeter)
    have hbalanced := (h.metered id meter hmeter).1
    -- Only an addition touches the figures.
    cases hadd : dto.addGasAllocation.truthy with
    | none =>
        apply sound_setMeter_same h hmeter
        · rwa [UpdateGasMeterDto.update, hadd, balanced_assign]
        · rwa [UpdateGasMeterDto.update, hadd]
        · rw [UpdateGasMeterDto.update, hadd]
          rfl
    | some gas =>
        have hgas : 1 ≤ gas := Given.within_of_truthy haccepted.1 hadd
        have hwithin := hcoverable meter gas hmeter hadd hcolumns
        apply sound_setMeter_same h hmeter
        · rw [UpdateGasMeterDto.update, hadd, balanced_assign]
          exact (GasMeter.balanced_topUp_iff hbalanced (by linarith)).mpr hwithin
        · rw [UpdateGasMeterDto.update, hadd]
          simp only [UpdateGasMeterDto.assign, GasMeter.topUp]
          linarith
        · rw [UpdateGasMeterDto.update, hadd]
          rfl

theorem sound_resetGasMeter {dto : ResetGasMeterDto} (h : Sound metering)
    (haccepted : (MeterCall.resetGasMeter id dto).Accepted) :
    Sound (step metering (.resetGasMeter id dto)).2 := by
  rcases resetGasMeter_cases id dto metering.world with
    ⟨message, hrejected⟩ | ⟨meter, hmeter, hreset⟩
  · simp only [step, MeterCall.program, hrejected]
    exact h
  · simp only [step, MeterCall.program, hreset, MeterCall.consumes]
    have hone := h.allocated meter (List.mem_of_getElem? hmeter)
    have hbalanced := (h.metered id meter hmeter).1
    -- A full reset comes before a new allocation.
    by_cases hfull : dto.fullReset.toOption = some true
    · simp only [ResetGasMeterDto.reset, if_pos hfull]
      have hzero : (0 : ℚ) = meter.fullReset.gasUsed := rfl
      rw [hzero]
      refine sound_setMeter h hmeter ?_ hone
      simp only [GasMeter.Balanced, GasMeter.fullReset, sub_zero]
      exact (max_eq_right (zero_le_one.trans hone)).symm
    · simp only [ResetGasMeterDto.reset, if_neg hfull]
      cases hnew : dto.newAllocation.truthy with
      | none => exact sound_setMeter_same h hmeter hbalanced hone rfl
      | some newAllocation =>
          have hallocation : 1 ≤ newAllocation := Given.within_of_truthy haccepted hnew
          apply sound_setMeter_same h hmeter (meter.balanced_reallocate newAllocation)
          · rwa [GasMeter.gasAllocated_reallocate]
          · exact meter.gasUsed_reallocate newAllocation

/-- Consuming keeps the meters in order, whatever comes of it. -/
theorem faithful_consumeGas {identifier : String} {gasAmount : ℚ} {choice : Nat}
    (h : Sound metering) (hpos : 0 < gasAmount) :
    Sound (step metering (.consumeGas identifier gasAmount choice)).2 ∧
      Faithful (.consumeGas identifier gasAmount choice) metering
        (step metering (.consumeGas identifier gasAmount choice)).1
        (step metering (.consumeGas identifier gasAmount choice)).2 := by
  rcases consumeGas_cases identifier gasAmount choice metering.world with
    ⟨hnone, hallowed⟩ | ⟨meter, id, hfound, hle, hcharged⟩ | ⟨message, hrejected⟩ |
    ⟨meter, id, message, hfound, hpaused⟩
  · apply faithful_of_same (.ok ()) h
    · simp only [step, MeterCall.program, hallowed, MeterCall.consumes, hnone]
    · rintro _ _ _ ⟨⟩ -
      exact hnone
  · have hmeter := meterOf_mem hfound
    have hone := h.allocated meter (List.mem_of_getElem? hmeter)
    have hold := h.metered id meter hmeter
    have hnew := GasMeter.balanced_charged hold.1 hpos hle
    -- The count grows as the meter does.
    have hused : metering.consumed id + gasAmount = (meter.charged .exact gasAmount).gasUsed := by
      rw [← hold.2]
      rfl
    have hsound := sound_setMeter h hmeter hnew.1 hone
    simp only [step, MeterCall.program, hcharged, MeterCall.consumes, hfound, hused]
    refine ⟨hsound, hsound.metered, ?_, fun _ _ _ _ _ hno => nomatch hno⟩
    rintro _ _ _ ⟨⟩ - m i hm m' hm'
    rw [hfound] at hm
    cases hm
    rw [getElem?_setMeter hmeter, if_pos rfl] at hm'
    cases hm'
    exact hnew.2
  · -- A rejection without a save.
    apply faithful_of_same (.error message) h
    · simp only [step, MeterCall.program, hrejected]
    · rintro _ _ _ - ⟨⟩
  · have hmeter := meterOf_mem hfound
    have hone := h.allocated meter (List.mem_of_getElem? hmeter)
    have hbalanced : GasMeter.Balanced { meter with status := .EXCEEDED } :=
      (h.metered id meter hmeter).1
    have hsound := sound_setMeter_same h hmeter hbalanced hone rfl
    simp only [step, MeterCall.program, hpaused]
    refine ⟨hsound, hsound.metered, (fun _ _ _ _ hno => nomatch hno), fun _ _ _ _ _ _ => ?_⟩
    -- Only the status has changed.
    simp only [World.setMeter, List.map_set]
    have hget : (metering.world.meters.map GasMeter.figures)[id]? = some meter.figures := by
      rw [List.getElem?_map, hmeter]
      rfl
    rcases List.getElem?_eq_some_iff.mp hget with ⟨hlt, hvalue⟩
    exact (congrArg _ hvalue.symm).trans (List.set_getElem_self hlt)

/-- Calls that do not add to a meter beyond its allocation are faithful. -/
theorem faithful_step (haccepted : call.Accepted) (h : Sound metering)
    (hcoverable : call.Coverable metering) : Sound (step metering call).2 ∧
      Faithful call metering (step metering call).1 (step metering call).2 := by
  cases call with
  | createGasMeter dto =>
      exact faithful_of_sound (fun _ _ _ h => nomatch h) (sound_createGasMeter h haccepted)
  | updateGasMeter id dto =>
      exact faithful_of_sound (fun _ _ _ h => nomatch h)
        (sound_updateGasMeter h haccepted hcoverable)
  | consumeGas identifier gasAmount choice => exact faithful_consumeGas h haccepted
  | resetGasMeter id dto =>
      exact faithful_of_sound (fun _ _ _ h => nomatch h) (sound_resetGasMeter h haccepted)

/-- Calls that do, leave a meter that is not in order. -/
theorem coverable_of_metered (haccepted : call.Accepted) (h : Sound metering)
    (hafter : Metered (step metering call).2) : call.Coverable metering := by
  cases call with
  | createGasMeter dto => exact trivial
  | consumeGas identifier gasAmount choice => exact trivial
  | resetGasMeter id dto => exact trivial
  | updateGasMeter id dto =>
      intro meter gas hmeter hadd hcolumns
      simp only [step, MeterCall.program, updateGasMeter_eq hmeter hcolumns] at hafter
      have hgas : 1 ≤ gas := Given.within_of_truthy haccepted.1 hadd
      -- The meter that was saved is in order.
      have hsaved := (hafter id (dto.update meter)
        (by rw [getElem?_setMeter hmeter, if_pos rfl])).1
      rw [UpdateGasMeterDto.update, hadd, balanced_assign] at hsaved
      exact (GasMeter.balanced_topUp_iff (h.metered id meter hmeter).1 (by linarith)).mp hsaved

/-- All calls of a run are faithful exactly when none of them adds to a meter
    that is used beyond its allocation. -/
theorem metering_iff {world : World} {calls : List MeterCall} (hworld : world.meters = [])
    (hcalls : ∀ call ∈ calls, call.Accepted) :
    Along step Faithful calls { world } ↔
      Along step (fun call before _ _ => call.Coverable before) calls { world } := by
  have hnone : ∀ id : Nat, world.meters[id]? = none := by
    intro id
    rw [hworld, List.getElem?_nil]
  -- Without a meter there is nothing to keep in order.
  have hstart : Sound { world } := by
    refine ⟨fun id meter hmeter => ?_, fun meter hmeter => ?_, fun _ _ => rfl⟩
    · rw [hnone id] at hmeter
      exact nomatch hmeter
    · rw [hworld] at hmeter
      exact absurd hmeter List.not_mem_nil
  apply along_iff_of_mem (I := Sound) _ _ hstart hcalls
  · intro call before haccepted h
    exact ⟨fun hfaithful => coverable_of_metered haccepted h hfaithful.metered,
      fun hcoverable => (faithful_step haccepted h hcoverable).2⟩
  · intro call before haccepted h hcoverable
    exact (faithful_step haccepted h hcoverable).1

end

/-- A meter of which all is consumed, then reset to an allocation, and then added
    to. -/
def sampleMetering (newAllocation : ℚ) : List MeterCall :=
  [.createGasMeter { programId := .value "program", gasAllocated := 100 },
   .consumeGas "program" 100 0,
   .resetGasMeter 0 { newAllocation := .value newAllocation },
   .updateGasMeter 0 { addGasAllocation := .value 30, status := .value .ACTIVE }]

theorem sampleMetering_accepted {newAllocation : ℚ} (h : 1 ≤ newAllocation) :
    ∀ call ∈ sampleMetering newAllocation, call.Accepted := by
  have hnot : ∀ P : ℚ → Prop, (Given.absent : Given ℚ).Within P := fun _ _ hno => nomatch hno
  have hvalue : ∀ a : ℚ, 1 ≤ a → (Given.value a).Within (1 ≤ ·) := by
    rintro a ha _ ⟨⟩
    exact ha
  intro call hcall
  simp only [sampleMetering, List.mem_cons, List.not_mem_nil, or_false] at hcall
  rcases hcall with rfl | rfl | rfl | rfl
  · exact ⟨by norm_num, hnot _, hnot _, hnot _⟩
  · exact (by norm_num : (0 : ℚ) < 100)
  · exact hvalue _ h
  · exact ⟨hvalue _ (by norm_num), hnot _, hnot _, hnot _⟩

theorem sampleMetering_iff :
    Along step Faithful (sampleMetering 200) { world := {} } ↔
      Along step (fun call before _ _ => call.Coverable before) (sampleMetering 200)
        { world := {} } :=
  metering_iff rfl (sampleMetering_accepted (by norm_num))

/-- Reset to half of what was used, a meter has what is added although more is
    used than allocated. -/
theorem not_metered : ¬Along step Faithful (sampleMetering 50) { world := {} } := by
  intro h
  have hmetered := h.2.2.2.1.metered
  have hbalanced := (hmetered 0 _ (by rfl)).1
  revert hbalanced
  unfold GasMeter.Balanced
  decide +kernel

end Svm

end SvmCourse
