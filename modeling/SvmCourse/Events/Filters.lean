import SvmCourse.Core.Double
import SvmCourse.Core.Table
import Mathlib.Data.List.Sort

/-!
# Event Filters

A filter has a type, and the type says which of its criteria apply: an account, a
program, an amount within bounds and a token, or a slot within bounds. A filter of
blocks has none. An event is an object, and what it has under a name may be
missing.

A criterion is looked at if it is there and counts as true. So a bound of zero and
an empty text are not looked at. And an amount that is missing is neither below
nor above a bound.

## Main definitions

* `Field`: What an object has under a name.
* `EventData`, `EventFilter`: Events and filters.
* `matchesFilter`, `findMatchingFilters`: What the service does.
* `Criterion`: A criterion with the field it is about.
* `Criterion.Satisfied`: What a criterion asks for.
* `Criterion.Overlooked`: A criterion that is not satisfied and not noticed.
* `Reliable`: Nothing is overlooked, unless the event is turned away anyway.

## Theorems

* `matchesFilter_iff`: An event is turned away if a criterion is violated.
* `filters_exact`: When filters match the events they ask for.
-/

namespace SvmCourse

namespace Events

open Core

/-! ### Events and filters -/

/-- A field of the language: missing, null, or a value. -/
inductive Field (α : Type) where
  | undefined
  | null
  | value (a : α)
  deriving DecidableEq

/-- The number that a field counts as when it is compared with one. -/
def Field.number : Field Double → Double
  | .undefined => .NaN
  | .null => .finite 0
  | .value x => x

/-- What an event carries, as far as filters read it. -/
structure EventData where
  accountId : Field String := .undefined
  programId : Field String := .undefined
  tokenMint : Field String := .undefined
  amount : Field Double := .undefined
  slot : Field Double := .undefined

/-- The kinds of filters. -/
inductive FilterType where
  | ACCOUNT | PROGRAM | TRANSACTION | SLOT | BLOCK
  deriving DecidableEq, Repr

/-- The statuses of a filter. -/
inductive FilterStatus where
  | ACTIVE | INACTIVE
  deriving DecidableEq, Repr

/-- The criteria of a filter. -/
structure FilterCriteria where
  minAmount : Option ℚ := none
  maxAmount : Option ℚ := none
  tokenMint : Option String := none
  minSlot : Option ℚ := none
  maxSlot : Option ℚ := none
  deriving DecidableEq

/-- A row of the filters. -/
structure EventFilter where
  id : String
  filterType : FilterType
  accountId : Option String := none
  programId : Option String := none
  criteria : FilterCriteria := {}
  status : FilterStatus := .ACTIVE
  createdAt : Nat := 0
  deriving DecidableEq

/-! ### Matching -/

/-- A text that is asked for, and not empty, is not that of the field. -/
def differs (field : Field String) (wanted : Option String) : Bool :=
  wanted.any fun text => text ≠ "" && field ≠ .value text

/-- The field is below a bound that is not zero. -/
def falls (field : Field Double) (bound : Option ℚ) : Bool :=
  bound.any fun q => q ≠ 0 && field.number.below q

/-- The field is above a bound that is not zero. -/
def exceeds (field : Field Double) (bound : Option ℚ) : Bool :=
  bound.any fun q => q ≠ 0 && field.number.above q

/-- The event passes the filter. -/
def matchesFilter (eventData : EventData) (filter : EventFilter) : Bool :=
  match filter.filterType with
  | .ACCOUNT => if differs eventData.accountId filter.accountId then false else true
  | .PROGRAM => if differs eventData.programId filter.programId then false else true
  | .TRANSACTION =>
    if falls eventData.amount filter.criteria.minAmount then false
    else if exceeds eventData.amount filter.criteria.maxAmount then false
    else if differs eventData.tokenMint filter.criteria.tokenMint then false
    else true
  | .SLOT =>
    if falls eventData.slot filter.criteria.minSlot then false
    else if exceeds eventData.slot filter.criteria.maxSlot then false
    else true
  -- A filter of blocks has no criteria.
  | .BLOCK => true

/-- The filters, no two of which have one id. -/
abbrev FilterRepository := Table EventFilter.id

/-- The active filters of a type, the newest first. -/
def getFiltersByType (filterRepository : FilterRepository) (filterType : FilterType) :
    List EventFilter :=
  (filterRepository.find fun filter =>
    filter.filterType = filterType && filter.status = .ACTIVE).insertionSort
      fun a b => b.createdAt ≤ a.createdAt

/-- The active filters of a kind that the event passes. -/
def findMatchingFilters (filterRepository : FilterRepository) (eventData : EventData)
    (filterType : FilterType) : List EventFilter :=
  (getFiltersByType filterRepository filterType).filter (matchesFilter eventData)

/-! ### Criteria -/

/-- One comparison that a filter makes. -/
inductive Criterion where
  | equal (field : Field String) (wanted : String)
  | atLeast (field : Field Double) (bound : ℚ)
  | atMost (field : Field Double) (bound : ℚ)

/-- The criteria that are present in a filter, each with the field it is about. -/
def EventFilter.present (filter : EventFilter) (eventData : EventData) : List Criterion :=
  match filter.filterType with
  | .ACCOUNT => (filter.accountId.map (.equal eventData.accountId)).toList
  | .PROGRAM => (filter.programId.map (.equal eventData.programId)).toList
  | .TRANSACTION =>
    (filter.criteria.minAmount.map (.atLeast eventData.amount)).toList ++
    ((filter.criteria.maxAmount.map (.atMost eventData.amount)).toList ++
    (filter.criteria.tokenMint.map (.equal eventData.tokenMint)).toList)
  | .SLOT =>
    (filter.criteria.minSlot.map (.atLeast eventData.slot)).toList ++
    (filter.criteria.maxSlot.map (.atMost eventData.slot)).toList
  | .BLOCK => []

namespace Criterion

/-- The field is there and has the text, or is a number within the bound. -/
def Satisfied : Criterion → Prop
  | equal field wanted => field = .value wanted
  | atLeast field bound => ∃ x, field = .value x ∧ x ≠ .NaN ∧ x.below bound = false
  | atMost field bound => ∃ x, field = .value x ∧ x ≠ .NaN ∧ x.above bound = false

/-- A criterion that counts as false is not looked at. -/
def Idle : Criterion → Prop
  | equal _ wanted => wanted = ""
  | atLeast _ bound | atMost _ bound => bound = 0

/-- There is no number in the field that could be outside the bound: nothing, or
    what is not a number, or null where zero is within the bound. -/
def Missing : Criterion → Prop
  | equal _ _ => False
  | atLeast field bound => field = .undefined ∨ field = .value .NaN ∨ field = .null ∧ bound ≤ 0
  | atMost field bound => field = .undefined ∨ field = .value .NaN ∨ field = .null ∧ 0 ≤ bound

/-- A criterion that is not satisfied, and that is not looked at or finds nothing
    to compare. -/
def Overlooked (criterion : Criterion) : Prop :=
  ¬criterion.Satisfied ∧ (criterion.Idle ∨ criterion.Missing)

/-- A criterion that is looked at and not met by the field. -/
def Violated (criterion : Criterion) : Prop :=
  ¬criterion.Idle ∧ match criterion with
    | equal field wanted => field ≠ .value wanted
    | atLeast field bound => field.number.below bound = true
    | atMost field bound => field.number.above bound = true

end Criterion

/-- Every criterion that is present is satisfied. -/
def Fits (eventData : EventData) (filter : EventFilter) : Prop :=
  ∀ criterion ∈ filter.present eventData, criterion.Satisfied

/-- No criterion is overlooked, or one is violated. -/
def Reliable (eventData : EventData) (filter : EventFilter) : Prop :=
  (∀ criterion ∈ filter.present eventData, ¬criterion.Overlooked) ∨
    ∃ criterion ∈ filter.present eventData, criterion.Violated

variable {eventData : EventData} {filter : EventFilter} {criterion : Criterion}

theorem violated_equal {field : Field String} {wanted : Option String} :
    (∃ criterion ∈ (wanted.map (Criterion.equal field)).toList, criterion.Violated) ↔
      differs field wanted = true := by
  cases wanted with
  | none => simp [differs]
  | some text => simp [differs, Criterion.Violated, Criterion.Idle]

theorem violated_atLeast {field : Field Double} {bound : Option ℚ} :
    (∃ criterion ∈ (bound.map (Criterion.atLeast field)).toList, criterion.Violated) ↔
      falls field bound = true := by
  cases bound with
  | none => simp [falls]
  | some q => simp [falls, Criterion.Violated, Criterion.Idle]

theorem violated_atMost {field : Field Double} {bound : Option ℚ} :
    (∃ criterion ∈ (bound.map (Criterion.atMost field)).toList, criterion.Violated) ↔
      exceeds field bound = true := by
  cases bound with
  | none => simp [exceeds]
  | some q => simp [exceeds, Criterion.Violated, Criterion.Idle]

/-- An event is turned away exactly if a criterion is violated. -/
theorem matchesFilter_iff (eventData : EventData) (filter : EventFilter) :
    matchesFilter eventData filter = true ↔
      ¬∃ criterion ∈ filter.present eventData, criterion.Violated := by
  unfold matchesFilter EventFilter.present
  -- Each kind of filter has criteria of its own, one for each check of the code.
  cases filter.filterType with
  | ACCOUNT =>
      rw [violated_equal]
      simp
  | PROGRAM =>
      rw [violated_equal]
      simp
  | TRANSACTION =>
      simp only [List.mem_append, or_and_right, exists_or, violated_atLeast, violated_atMost,
        violated_equal]
      simp
  | SLOT =>
      simp only [List.mem_append, or_and_right, exists_or, violated_atLeast, violated_atMost]
      simp
  | BLOCK => simp

/-- What holds of the number in a field unless nothing can be compared. -/
theorem overlooked_or_satisfied {field : Field Double} (outside : Double → Bool)
    {Holds Missing Idle : Prop} (hholds : Holds ↔ ∃ x, field = .value x ∧ x ≠ .NaN ∧
      outside x = false)
    (hmissing : Missing ↔ field = .undefined ∨ field = .value .NaN ∨ field = .null ∧
      outside (.finite 0) = false) (hNaN : outside .NaN = false) :
    ¬(¬Idle ∧ outside field.number = true) ↔ Holds ∨ ¬Holds ∧ (Idle ∨ Missing) := by
  -- Nothing is outside the bound that is not a number.
  have hinside : outside field.number = false ↔ Holds ∨ Missing := by
    rw [hholds, hmissing]
    cases field with
    | undefined => simp [Field.number, hNaN]
    | null => simp [Field.number]
    | value x =>
        by_cases hx : x = .NaN
        · simp [Field.number, hx, hNaN]
        · simp [Field.number, hx]
  rw [not_and, Bool.not_eq_true, hinside]
  tauto

/-- What is not violated is satisfied or overlooked. -/
theorem not_violated_iff (criterion : Criterion) :
    ¬criterion.Violated ↔ criterion.Satisfied ∨ criterion.Overlooked := by
  cases criterion with
  | equal field wanted =>
      simp only [Criterion.Violated, Criterion.Satisfied, Criterion.Overlooked, Criterion.Idle,
        Criterion.Missing]
      tauto
  | atLeast field bound =>
      refine overlooked_or_satisfied (fun x => x.below bound) Iff.rfl ?_ rfl
      simp [Criterion.Missing, Double.below]
  | atMost field bound =>
      refine overlooked_or_satisfied (fun x => x.above bound) Iff.rfl ?_ rfl
      simp [Criterion.Missing, Double.above]

/-- A filter matches the events it asks for exactly if nothing is overlooked, or
    the event is turned away anyway. -/
theorem matchesFilter_iff_fits (eventData : EventData) (filter : EventFilter) :
    (matchesFilter eventData filter = true ↔ Fits eventData filter) ↔
      Reliable eventData filter := by
  rw [matchesFilter_iff, Reliable]
  by_cases hviolated : ∃ criterion ∈ filter.present eventData, criterion.Violated
  · -- What is violated is not satisfied, so the filter does not ask for the event.
    rcases hviolated with ⟨criterion, hmem, hviolates⟩
    have hfits : ¬Fits eventData filter := fun hfits =>
      (not_violated_iff criterion).mpr (Or.inl (hfits criterion hmem)) hviolates
    exact iff_of_true (iff_of_false (fun h => h ⟨criterion, hmem, hviolates⟩) hfits)
      (Or.inr ⟨criterion, hmem, hviolates⟩)
  · have hall : ∀ criterion ∈ filter.present eventData,
        criterion.Satisfied ∨ criterion.Overlooked := fun criterion hmem =>
      (not_violated_iff criterion).mp fun hviolates => hviolated ⟨criterion, hmem, hviolates⟩
    simp only [hviolated, not_false_eq_true, true_iff, or_false]
    constructor
    · intro hfits criterion hmem hoverlooked
      exact hoverlooked.1 (hfits criterion hmem)
    · intro hnone criterion hmem
      exact (hall criterion hmem).resolve_right (hnone criterion hmem)

theorem mem_getFiltersByType {filterRepository : FilterRepository} {filterType : FilterType} :
    filter ∈ getFiltersByType filterRepository filterType ↔
      filter ∈ filterRepository.rows ∧ filter.filterType = filterType ∧
        filter.status = .ACTIVE := by
  rw [getFiltersByType, List.mem_insertionSort, Table.find, List.mem_filter]
  simp

/-- Each filter is found once. -/
theorem nodup_findMatchingFilters (filterRepository : FilterRepository) (eventData : EventData)
    (filterType : FilterType) :
    (findMatchingFilters filterRepository eventData filterType).Nodup := by
  have hrows : filterRepository.rows.Nodup := filterRepository.unique.of_map
  have hsorted : (getFiltersByType filterRepository filterType).Nodup :=
    (List.perm_insertionSort _ _).nodup_iff.mpr (hrows.filter _)
  exact hsorted.filter _

/-- What is found are the active filters of the type that ask for the event, each
    once. -/
def Exact (filterRepository : FilterRepository) (eventData : EventData)
    (filterType : FilterType) : Prop :=
  (findMatchingFilters filterRepository eventData filterType).Nodup ∧
    ∀ filter, filter ∈ findMatchingFilters filterRepository eventData filterType ↔
      filter ∈ filterRepository.rows ∧ filter.filterType = filterType ∧
        filter.status = .ACTIVE ∧ Fits eventData filter

/-- A filter matches the events it asks for exactly if nothing is overlooked, or
    the event is turned away anyway. The filters found for an event are those that
    ask for it exactly if this holds of the active filters of the type. -/
theorem filters_exact (filterRepository : FilterRepository) (eventData : EventData)
    (filterType : FilterType) :
    (∀ filter, (matchesFilter eventData filter = true ↔ Fits eventData filter) ↔
      Reliable eventData filter) ∧
    (Exact filterRepository eventData filterType ↔
      ∀ filter ∈ filterRepository.rows, filter.filterType = filterType →
        filter.status = .ACTIVE → Reliable eventData filter) := by
  refine ⟨matchesFilter_iff_fits eventData, ?_⟩
  have hmem : ∀ filter, filter ∈ findMatchingFilters filterRepository eventData filterType ↔
      (filter ∈ filterRepository.rows ∧ filter.filterType = filterType ∧
        filter.status = .ACTIVE) ∧ matchesFilter eventData filter = true := by
    intro filter
    rw [findMatchingFilters, List.mem_filter, mem_getFiltersByType]
  constructor
  · -- For an active filter of the type, being found is to match.
    rintro ⟨-, hexact⟩ filter hrow htype hactive
    rw [← matchesFilter_iff_fits]
    have hboth := hexact filter
    rw [hmem] at hboth
    tauto
  · intro hreliable
    refine ⟨nodup_findMatchingFilters filterRepository eventData filterType, fun filter => ?_⟩
    rw [hmem]
    constructor
    · rintro ⟨⟨hrow, htype, hactive⟩, hmatches⟩
      have hiff := (matchesFilter_iff_fits eventData filter).mpr
        (hreliable filter hrow htype hactive)
      exact ⟨hrow, htype, hactive, hiff.mp hmatches⟩
    · rintro ⟨hrow, htype, hactive, hfits⟩
      have hiff := (matchesFilter_iff_fits eventData filter).mpr
        (hreliable filter hrow htype hactive)
      exact ⟨⟨hrow, htype, hactive⟩, hiff.mpr hfits⟩

/-- A filter for transactions of at most nothing. -/
def sampleFilter : EventFilter where
  id := "filter"
  filterType := .TRANSACTION
  criteria := { maxAmount := some 0 }

/-- It matches a transaction of five. -/
theorem zero_bound_overlooked : ¬∀ (eventData : EventData) (filter : EventFilter),
    matchesFilter eventData filter = true ↔ Fits eventData filter := by
  intro h
  have hfits := (h { amount := .value (.finite 5) } sampleFilter).mp (by decide)
  rcases hfits (.atMost (.value (.finite 5)) 0) (List.mem_singleton_self _) with
    ⟨x, hfield, -, hwithin⟩
  cases hfield
  exact absurd hwithin (by decide)

end Events

end SvmCourse
