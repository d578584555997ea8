import SvmCourse.Core.Pick

/-!
# Permissions of Cross-Program Calls

A permission names the program that may be called and the one that may call it,
and may be limited to one account and to a time. To check whether a call is
permitted, one row that matches is looked up, and only then is its expiry
compared with the clock. A query without an account is a condition without a
value, so rows of every account match it.

Which of several rows is found is decided outside. Times are milliseconds.

## Main definitions

* `CpiPermission`: The rows.
* `checkPermission`: The check.
* `Grants`: Some row permits exactly what is asked for.

## Theorems

* `checkPermission_exact`: When the check answers what the rows grant.
-/

namespace SvmCourse

namespace Cpi

namespace Permissions

open Core

/-- A row of the permissions. -/
structure CpiPermission where
  programId : String
  granterProgramId : String
  accountId : Option String := none
  permissionType : String
  isActive : Bool := true
  expiresAt : Option Int := none
  deriving DecidableEq

/-- What is asked for: who calls whom, for what, and on which account. -/
structure PermissionQuery where
  callerProgramId : String
  targetProgramId : String
  permissionType : String := "invoke"
  accountId : Option String := none

namespace PermissionQuery

/-- An empty account counts as none. -/
def scope (query : PermissionQuery) : Option String :=
  query.accountId.filter (· ≠ "")

/-- The conditions of the lookup. -/
def Matches (query : PermissionQuery) (permission : CpiPermission) : Bool :=
  permission.programId = query.targetProgramId &&
    permission.granterProgramId = query.callerProgramId &&
    permission.permissionType = query.permissionType &&
    -- Without an account this is the condition that is skipped.
    restricts query.scope permission.accountId &&
    permission.isActive = true

end PermissionQuery

/-- The permission was for a time that is over. -/
def CpiPermission.expired (permission : CpiPermission) (now : Int) : Bool :=
  permission.expiresAt.any (· < now)

/-- The check of the service: the row that is found decides, whether it has expired or
    not. -/
def checkPermission (permissions : List CpiPermission) (now : Int) (choice : Nat)
    (query : PermissionQuery) : Bool :=
  match pick (permissions.filter query.Matches) choice with
  | none => false
  | some permission => if permission.expired now then false else true

/-- A row permits what is asked for: the programs, the type and the account, and
    it is active and has not expired. -/
structure Permits (now : Int) (query : PermissionQuery) (permission : CpiPermission) : Prop where
  programId : permission.programId = query.targetProgramId
  granterProgramId : permission.granterProgramId = query.callerProgramId
  permissionType : permission.permissionType = query.permissionType
  accountId : permission.accountId = query.scope
  isActive : permission.isActive = true
  current : permission.expired now = false

/-- Some row permits what is asked. -/
def Grants (permissions : List CpiPermission) (now : Int) (query : PermissionQuery) : Prop :=
  ∃ permission ∈ permissions, Permits now query permission

section Exact

variable {permissions : List CpiPermission} {now : Int} {query : PermissionQuery}
  {permission : CpiPermission}

theorem matches_iff : query.Matches permission = true ↔
    permission.programId = query.targetProgramId ∧
      permission.granterProgramId = query.callerProgramId ∧
      permission.permissionType = query.permissionType ∧
      restricts query.scope permission.accountId = true ∧ permission.isActive = true := by
  simp [PermissionQuery.Matches, and_assoc]

/-- A row of exactly the account that is asked for meets the condition on it. -/
theorem restricts_scope (h : permission.accountId = query.scope) :
    restricts query.scope permission.accountId = true := by
  cases hscope : query.scope with
  | none => exact restricts_none _
  | some account => exact restricts_some.mpr (h.trans hscope)

theorem permits_iff : Permits now query permission ↔
    query.Matches permission = true ∧ permission.accountId = query.scope ∧
      permission.expired now = false := by
  rw [matches_iff]
  constructor
  · intro h
    exact ⟨⟨h.programId, h.granterProgramId, h.permissionType, restricts_scope h.accountId,
      h.isActive⟩, h.accountId, h.current⟩
  · rintro ⟨⟨hprogram, hgranter, htype, -, hactive⟩, haccount, hcurrent⟩
    exact ⟨hprogram, hgranter, htype, haccount, hactive, hcurrent⟩

theorem checkPermission_eq (choice : Nat) : checkPermission permissions now choice query =
    (pick (permissions.filter query.Matches) choice).any fun row => !row.expired now := by
  unfold checkPermission
  cases pick (permissions.filter query.Matches) choice with
  | none => rfl
  | some row =>
      change (if row.expired now = true then false else true) = !row.expired now
      cases row.expired now <;> rfl

/-- The rows that match have all expired, or none of them has, and one is of
    exactly the account that is asked for. -/
def Unanimous (permissions : List CpiPermission) (now : Int) (query : PermissionQuery) : Prop :=
  (∀ row ∈ permissions, query.Matches row = true → row.expired now = true) ∨
    (∀ row ∈ permissions, query.Matches row = true → row.expired now = false) ∧
      ∃ row ∈ permissions, query.Matches row = true ∧ row.accountId = query.scope

/-- The check answers what the rows grant, whichever row is found, exactly when
    the rows that match agree about it. -/
theorem checkPermission_exact (permissions : List CpiPermission) (now : Int)
    (query : PermissionQuery) :
    (∀ choice, checkPermission permissions now choice query = true ↔
      Grants permissions now query) ↔ Unanimous permissions now query := by
  simp only [checkPermission_eq]
  by_cases hgrants : Grants permissions now query
  · simp only [hgrants, iff_true, any_pick_iff]
    rcases hgrants with ⟨row, hrow, hpermits⟩
    rcases permits_iff.mp hpermits with ⟨hmatches, haccount, hcurrent⟩
    constructor
    · rintro ⟨-, hall⟩
      refine Or.inr ⟨fun r hr hm => ?_, row, hrow, hmatches, haccount⟩
      have htest := hall r (List.mem_filter.mpr ⟨hr, hm⟩)
      simpa using htest
    · rintro (hexpired | ⟨hall, -⟩)
      · -- The row that permits the call has not expired.
        rw [hexpired row hrow hmatches] at hcurrent
        exact absurd hcurrent (by decide)
      · refine ⟨List.ne_nil_of_mem (List.mem_filter.mpr ⟨hrow, hmatches⟩), fun r hr => ?_⟩
        rcases List.mem_filter.mp hr with ⟨hmem, hm⟩
        rw [hall r hmem hm]
        rfl
  · simp only [hgrants, iff_false, Bool.not_eq_true, not_any_pick_iff]
    constructor
    · intro hall
      refine Or.inl fun r hr hm => ?_
      have htest := hall r (List.mem_filter.mpr ⟨hr, hm⟩)
      simpa using htest
    · rintro (hexpired | ⟨hall, row, hrow, hmatches, haccount⟩) r hr
      · rcases List.mem_filter.mp hr with ⟨hmem, hm⟩
        rw [hexpired r hmem hm]
        rfl
      · -- That row would permit the call.
        exact absurd ⟨row, hrow, permits_iff.mpr ⟨hmatches, haccount, hall row hrow hmatches⟩⟩
          hgrants

end Exact

/-- One permission that is limited to an account, and nothing else. -/
def samplePermissions : List CpiPermission :=
  [{ programId := "target", granterProgramId := "caller", accountId := some "account",
     permissionType := "invoke" }]

/-- A permission for one account is taken for one without limits. -/
theorem scoped_permission_found :
    checkPermission samplePermissions 0 0
        { callerProgramId := "caller", targetProgramId := "target" } = true ∧
      ¬ Grants samplePermissions 0
        { callerProgramId := "caller", targetProgramId := "target" } := by
  refine ⟨by decide, ?_⟩
  rintro ⟨row, hrow, hpermits⟩
  rw [samplePermissions, List.mem_singleton] at hrow
  subst hrow
  exact absurd hpermits.accountId (by decide)

end Permissions

end Cpi

end SvmCourse
