import SvmCourse.Core.Histories
import SvmCourse.SmartAccounts.Accounts

/-!
# Spending Limits

An authorized request has read the rules of its account, found its program
allowed, and compared what is spent on the day with the limit. Then it counts
its amount. The reading, the comparison and the counting are accesses of their
own, so other requests count in between, midnight passes, and the account is
frozen while its rules are still cached.

The limit is kept when a request finds the count no higher than it was when it
was compared. It is active when cached rules are used only while the account
is. A limit of zero is passed over, and past the integers that doubles tell
apart comparing and counting go wrong.

## Main definitions

* `World.recordedOn`, `World.spentOn`: What has been recorded on a day.
* `Prudent`: When the accesses of a request do no harm.
* `Deed`: What an access does to accounts, rules and counts.
* `Sound`: What every prudent access keeps.
* `WithinPolicy`: What is promised of recordings and authorized requests.

## Theorems

* `sound_deed`: Prudent accesses keep what is sound.
* `handleAuthorizationRequest_follows`: What a request does and comes to.
* `withinPolicy_along`: Schedules of prudent accesses stay within the policy.
-/

namespace SvmCourse

namespace SmartAccounts

open Core Core.Prog Core.Machine Core.Sched

/-! ### The policy -/

namespace World

/-- The amounts recorded for the account on the day. -/
def recordedOn (world : World) (smartAccountAddress : String) (day : Int) : List Int :=
  (world.recordings.filter fun recording =>
    recording.smartAccountAddress = smartAccountAddress && recording.day = day).map
      Recording.amount

/-- What was recorded for an account on a day. -/
def spentOn (world : World) (smartAccountAddress : String) (day : Int) : Int :=
  (world.recordedOn smartAccountAddress day).sum

/-- What the counter of the day says, where none says nothing is spent. -/
def counted (world : World) (smartAccountAddress : String) (day : Int) : Int :=
  (world.spent smartAccountAddress day).getD 0

end World

/-- No day's total is above the limit, and a request that has been authorized has
    had an active account, which allows the program, at some instant while it
    was handled. -/
structure WithinPolicy (r : Recorded World String Call) : Prop where
  limit : ∀ address account maxDailySpend, r.store.accounts.findOne address = some account →
    account.rules.maxDailySpend = some maxDailySpend → ∀ day,
      r.store.recordedOn address day = [] ∨ (r.store.spentOn address day : ℚ) ≤ maxDailySpend
  active : ∀ w ∈ r.calls, ∀ message, w.call = .handleAuthorizationRequest message →
    w.rest.outcome = some (.ok ()) → ∃ address, given message.smartAccountAddress = some address ∧
      ∃ u ∈ w.lived, ∃ account, u.accounts.findOne address = some account ∧
        account.status = .ACTIVE ∧ ∀ allowedPrograms, account.rules.allowedPrograms =
          some allowedPrograms → ∃ programId ∈ message.programId, programId ∈ allowedPrograms

/-! ### Prudent accesses -/

/-- A limit of zero, which is not checked, takes no positive amount. Another one
    is checked with numbers small enough, and when the amount is recorded the
    counter is not above what the check, the last but one access, has read. -/
def RecordsInTime (message : AuthorizationRequest) (seen : List (World × World)) (s : World)
    (address : String) (maxDailySpend : ℚ) : Prop :=
  -- A limit of zero is not checked at all.
  if maxDailySpend = 0 then message.amount ≤ 0
  else match seen.reverse with
    | last :: check :: start :: _ =>
      -- The clock and the counter that the check has read, and the clock of the
      -- recording.
      let read := check.1.counted address (dayOf start.1.now)
      s.counted address (dayOf last.1.now) ≤ read ∧ read.natAbs ≤ Number.maxExact ∧
        message.amount.natAbs ≤ Number.maxExact ∧
        (read + message.amount).natAbs ≤ Number.maxExact
    | _ => True

instance (message : AuthorizationRequest) (seen : List (World × World)) (s : World)
    (address : String) (maxDailySpend : ℚ) :
    Decidable (RecordsInTime message seen s address maxDailySpend) := by
  unfold RecordsInTime
  split
  · infer_instance
  · split <;> infer_instance

/-- Cached rules are used while the account is active, and amounts are recorded
    in time. -/
def Prudent (call : Call) (seen : List (World × World)) (s t : World) : Prop :=
  match call with
  | .handleAuthorizationRequest message => ∀ address ∈ given message.smartAccountAddress,
      (seen = [] → (s.rules address).isSome = true →
        ∃ account ∈ s.accounts.findOne address, account.status = .ACTIVE) ∧
      (s.recordings.length < t.recordings.length →
        ∀ account ∈ s.accounts.findOne address,
          ∀ maxDailySpend ∈ account.rules.maxDailySpend,
            RecordsInTime message seen s address maxDailySpend)
  | _ => True

instance (call : Call) (seen : List (World × World)) (s t : World) :
    Decidable (Prudent call seen s t) :=
  match call with
  | .handleAuthorizationRequest message =>
    inferInstanceAs (Decidable (∀ address ∈ given message.smartAccountAddress,
      (seen = [] → (s.rules address).isSome = true →
        ∃ account ∈ s.accounts.findOne address, account.status = .ACTIVE) ∧
      (s.recordings.length < t.recordings.length →
        ∀ account ∈ s.accounts.findOne address,
          ∀ maxDailySpend ∈ account.rules.maxDailySpend,
            RecordsInTime message seen s address maxDailySpend)))
  | .createSmartAccount _ _ | .createSessionKey _ _ _ | .validateSessionKey _ _ _
  | .revokeSessionKey _ _ | .changeStatus _ _ | .pass _ | .evictRules _ | .evictPermissions _ =>
    isTrue trivial

/-! ### What accesses do -/

/-- The rules were cached when the call began, or an active account had them. -/
def HasRead (address : String) (seen : List (World × World)) (rules : Rules) : Prop :=
  (∃ p ∈ seen.head?, p.1.rules address = some rules) ∨
    ∃ p ∈ seen, ∃ account, p.1.accounts.findOne address = some account ∧
      account.status = .ACTIVE ∧ account.rules = rules

/-- The last accesses have read the time and the counter, and the counter leaves
    room for the amount, unless there is no limit. -/
def Passed (message : AuthorizationRequest) (address : String) (seen : List (World × World))
    (rules : Rules) : Prop :=
  ∀ maxDailySpend, rules.maxDailySpend = some maxDailySpend → maxDailySpend ≠ 0 →
    ∃ before start check, seen = before ++ [start, check] ∧
      ((Number.ofInt (check.1.counted address (dayOf start.1.now))).add
        (Number.ofInt message.amount)).above maxDailySpend = false

/-- What an access of the call does to accounts, rules and counts. -/
inductive Deed (call : Call) (seen : List (World × World)) : World → World → Prop where
  | aside (s t : World) (haccounts : t.accounts = s.accounts) (hrules : t.rules = s.rules)
      (hspent : t.spent = s.spent) (hrecordings : t.recordings = s.recordings) :
      Deed call seen s t
  | forget (s : World) (address : String) : Deed call seen s (s.setRules address none)
  | cache (s : World) (address : String) (rules : Rules) (p : World × World) (hseen : p ∈ seen)
      (account : SmartAccount) (hfind : p.2.accounts.findOne address = some account)
      (hrules : account.rules = rules) : Deed call seen s (s.setRules address (some rules))
  | add (s : World) (account : SmartAccount)
      (hnew : s.accounts.findOne account.smartAccountAddress = none) :
      Deed call seen s { s with accounts := s.accounts.save account }
  | change (s : World) (address : String) (status : SmartAccountStatus) :
      Deed call seen s { s with
        accounts := s.accounts.update (fun account => account.smartAccountAddress = address)
          (fun account => { account with status }) fun _ => rfl }
  | record (s : World) (message : AuthorizationRequest) (address : String) (n told : Int)
      (rules : Rules) (init : List (World × World)) (last : World × World)
      (hcall : call = .handleAuthorizationRequest message)
      (hgiven : given message.smartAccountAddress = some address)
      (hamount : Number.ofInt message.amount = .int n)
      (htold : (Number.int n).asInteger = some told) (hseen : seen = init ++ [last])
      (hread : HasRead address init rules) (hpassed : Passed message address init rules) :
      Deed call seen s (s.count address (dayOf last.1.now) n told)

/-- An access goes on in time and does one of these things. -/
def Does (call : Call) (seen : List (World × World)) (s t : World) : Prop :=
  Later s t ∧ Deed call seen s t

/-- Cached rules are those of the account. Nothing is counted for an account that
    is not there. Where a limit is checked the counters are right, and no limit
    is exceeded. -/
structure Sound (s : World) : Prop where
  cached : ∀ (address : String) (rules : Rules), s.rules address = some rules →
    ∃ account : SmartAccount, s.accounts.findOne address = some account ∧ account.rules = rules
  unknown : ∀ address : String, s.accounts.findOne address = none → ∀ day,
    s.spent address day = none ∧ s.recordedOn address day = []
  counted : ∀ (address : String) (account : SmartAccount) (maxDailySpend : ℚ),
    s.accounts.findOne address = some account →
    account.rules.maxDailySpend = some maxDailySpend → maxDailySpend ≠ 0 → ∀ day,
      s.counted address day = s.spentOn address day
  kept : ∀ (address : String) (account : SmartAccount) (maxDailySpend : ℚ),
    s.accounts.findOne address = some account →
    account.rules.maxDailySpend = some maxDailySpend → ∀ day,
      s.recordedOn address day = [] ∨ (s.spentOn address day : ℚ) ≤ maxDailySpend

section Sound

variable {s t : World} {seen : List (World × World)} {call : Call}

theorem recordedOn_count (s : World) (address address' : String) (day day' n told : Int) :
    (s.count address day n told).recordedOn address' day' = s.recordedOn address' day' ++
      if address = address' ∧ day = day' then [n] else [] := by
  rw [World.recordedOn, World.count, World.recordedOn, List.filter_append, List.map_append,
    List.filter_singleton]
  by_cases h : address = address' ∧ day = day'
  · obtain ⟨rfl, rfl⟩ := h
    simp
  · rw [if_neg h]
    have hother : (decide (address = address') && decide (day = day')) = false := by
      simpa using h
    simp [hother]

theorem spentOn_count (s : World) (address address' : String) (day day' n told : Int) :
    (s.count address day n told).spentOn address' day' = s.spentOn address' day' +
      if address = address' ∧ day = day' then n else 0 := by
  rw [World.spentOn, recordedOn_count, List.sum_append]
  split <;> simp [World.spentOn]

theorem counted_count (s : World) (address address' : String) (day day' n told : Int) :
    (s.count address day n told).counted address' day' = s.counted address' day' +
      if address = address' ∧ day = day' then told else 0 := by
  by_cases haddress : address = address'
  · subst haddress
    by_cases hday : day = day'
    · subst hday
      simp [World.counted, World.count]
    · have hne : day' ≠ day := fun h => hday h.symm
      simp [World.counted, World.count, Function.update_of_ne hne, hday]
  · have hne : address' ≠ address := fun h => haddress h.symm
    simp [World.counted, World.count, Function.update_of_ne hne, haddress]

/-- The rules that have been read are the ones that are stored. -/
theorem stored_of_hasRead {address : String} {rules : Rules} (hpast : Past Later Sound seen s)
    (h : HasRead address seen rules) :
    ∃ account, s.accounts.findOne address = some account ∧ account.rules = rules := by
  have hlater : ∀ p ∈ seen, Later p.1 s := fun p hp =>
    later_trans (hpast.access p hp) (hpast.past p hp)
  obtain ⟨p, hp, hfind⟩ : ∃ p ∈ seen, ∃ account, p.1.accounts.findOne address = some account ∧
      account.rules = rules := by
    rcases h with ⟨p, hp, hcached⟩ | ⟨p, hp, account, hfind, -, hrules⟩
    · have hmem := List.mem_of_head? hp
      exact ⟨p, hmem, (hpast.kept p hmem).cached address rules hcached⟩
    · exact ⟨p, hp, account, hfind, hrules⟩
  obtain ⟨account, hfind, hrules⟩ := hfind
  obtain ⟨account', hfind', hsame⟩ := (hlater p hp).accounts address account hfind
  exact ⟨account', hfind', hsame.trans hrules⟩

theorem sound_setRules {address : String} {rules : Option Rules} (hs : Sound s)
    (h : ∀ new, rules = some new → ∃ account, s.accounts.findOne address = some account ∧
      account.rules = new) : Sound (s.setRules address rules) := by
  refine ⟨fun other cached hcached => ?_, hs.unknown, hs.counted, hs.kept⟩
  by_cases hother : other = address
  · subst hother
    rw [World.setRules] at hcached
    simp only [Function.update_self] at hcached
    exact h cached hcached
  · rw [World.setRules] at hcached
    simp only [Function.update_of_ne hother] at hcached
    exact hs.cached other cached hcached

/-- A new account has spent nothing yet. -/
theorem sound_add {account : SmartAccount} (hs : Sound s)
    (hnew : s.accounts.findOne account.smartAccountAddress = none) :
    Sound { s with accounts := s.accounts.save account } := by
  have hfind (address : String) : (s.accounts.save account).findOne address =
      if address = account.smartAccountAddress then some account
      else s.accounts.findOne address := by
    by_cases h : address = account.smartAccountAddress
    · subst h
      rw [if_pos rfl]
      exact Table.findOne_save_self ..
    · rw [if_neg h]
      exact Table.findOne_save_of_ne h
  -- Nothing was recorded for an address without an account.
  obtain hnone := hs.unknown _ hnew
  constructor
  · intro address rules hcached
    obtain ⟨found, hfound, hrules⟩ := hs.cached address rules hcached
    have hne : address ≠ account.smartAccountAddress := by
      rintro rfl
      exact nomatch hnew.symm.trans hfound
    exact ⟨found, (hfind address).trans ((if_neg hne).trans hfound), hrules⟩
  · intro address hmissing
    rw [hfind address] at hmissing
    split at hmissing
    · exact nomatch hmissing
    · exact hs.unknown address hmissing
  · -- The counter and the recordings of the new account are both zero.
    intro address found maxDailySpend hfound hmax hne day
    rw [hfind address] at hfound
    split at hfound
    · next heq =>
        subst heq
        have hcounted : s.counted account.smartAccountAddress day = 0 := by
          rw [World.counted, (hnone day).1]
          rfl
        have hspent : s.spentOn account.smartAccountAddress day = 0 := by
          rw [World.spentOn, (hnone day).2]
          rfl
        exact hcounted.trans hspent.symm
    · exact hs.counted address found maxDailySpend hfound hmax hne day
  · intro address found maxDailySpend hfound hmax day
    rw [hfind address] at hfound
    split at hfound
    · next heq =>
        subst heq
        exact Or.inl (hnone day).2
    · exact hs.kept address found maxDailySpend hfound hmax day

/-- A status is not a rule. -/
theorem sound_change (address : String) (status : SmartAccountStatus) (hs : Sound s) :
    Sound { s with
      accounts := s.accounts.update (fun account => account.smartAccountAddress = address)
        (fun account => { account with status }) fun _ => rfl } := by
  -- The account that is found has the rules it had before.
  have hrules (other : String) (found : SmartAccount)
      (hfound : (s.accounts.update (fun account => account.smartAccountAddress = address)
        (fun account => { account with status }) fun _ => rfl).findOne other = some found) :
      ∃ account, s.accounts.findOne other = some account ∧ account.rules = found.rules := by
    rw [findOne_changeStatus] at hfound
    obtain ⟨account, hfind, rfl⟩ := Option.map_eq_some_iff.mp hfound
    refine ⟨account, hfind, ?_⟩
    split <;> rfl
  constructor
  · intro other rules hcached
    obtain ⟨account, hfind, hsame⟩ := hs.cached other rules hcached
    refine ⟨_, (findOne_changeStatus ..).trans (by rw [hfind]; rfl), ?_⟩
    dsimp only
    split <;> exact hsame
  · intro other hmissing
    rw [findOne_changeStatus, Option.map_eq_none_iff] at hmissing
    exact hs.unknown other hmissing
  · intro other found maxDailySpend hfound hmax hne day
    obtain ⟨account, hfind, hsame⟩ := hrules other found hfound
    exact hs.counted other account maxDailySpend hfind (hsame ▸ hmax) hne day
  · intro other found maxDailySpend hfound hmax day
    obtain ⟨account, hfind, hsame⟩ := hrules other found hfound
    exact hs.kept other account maxDailySpend hfind (hsame ▸ hmax) day

theorem hasRead_append {address : String} {rules : Rules} (h : HasRead address seen rules)
    (more : List (World × World)) : HasRead address (seen ++ more) rules := by
  rcases h with ⟨p, hp, hcached⟩ | ⟨p, hp, hfound⟩
  · refine Or.inl ⟨p, ?_, hcached⟩
    cases seen with
    | nil => exact nomatch hp
    | cons q rest => exact hp
  · exact Or.inr ⟨p, List.mem_append_left _ hp, hfound⟩

/-- With small numbers the check is one of integers, and the amount is what the
    counter is told. -/
theorem room_of_passed {message : AuthorizationRequest} {address : String} {rules : Rules}
    {init : List (World × World)} {last : World × World} {n told : Int} {maxDailySpend : ℚ}
    (hamount : Number.ofInt message.amount = .int n)
    (htold : (Number.int n).asInteger = some told) (hpassed : Passed message address init rules)
    (hmax : rules.maxDailySpend = some maxDailySpend) (hne : maxDailySpend ≠ 0)
    (htime : RecordsInTime message (init ++ [last]) s address maxDailySpend) :
    told = n ∧ ((s.counted address (dayOf last.1.now) + n : Int) : ℚ) ≤ maxDailySpend := by
  obtain ⟨before, start, check, rfl, hbelow⟩ := hpassed maxDailySpend hmax hne
  rw [RecordsInTime, if_neg hne] at htime
  simp only [List.reverse_append, List.reverse_cons, List.reverse_nil, List.nil_append,
    List.cons_append] at htime
  -- None of the numbers is rounded, so the sum that was compared is exact.
  obtain ⟨hcount, hread, hsmall, hsum⟩ := htime
  rw [Number.ofInt_of_small hsmall] at hamount
  cases hamount
  rw [Number.asInteger_of_small hsmall, Option.some_inj] at htold
  rw [Number.ofInt_of_small hread, Number.ofInt_of_small hsmall, Number.add,
    Number.ofInt_of_small hsum, Number.above, decide_eq_false_iff_not, not_lt] at hbelow
  refine ⟨htold.symm, le_trans ?_ hbelow⟩
  exact_mod_cast Int.add_le_add_right hcount message.amount

/-- A recording in time keeps the counters right and the limits. -/
theorem sound_record {message : AuthorizationRequest} {address : String} {rules : Rules}
    {init : List (World × World)} {last : World × World} {n told : Int} (hs : Sound s)
    (hpast : Past Later Sound (init ++ [last]) s)
    (hamount : Number.ofInt message.amount = .int n)
    (htold : (Number.int n).asInteger = some told) (hread : HasRead address init rules)
    (hpassed : Passed message address init rules)
    (htime : ∀ account ∈ s.accounts.findOne address,
      ∀ maxDailySpend ∈ account.rules.maxDailySpend,
        RecordsInTime message (init ++ [last]) s address maxDailySpend) :
    Sound (s.count address (dayOf last.1.now) n told) := by
  obtain ⟨account, hfind, rfl⟩ := stored_of_hasRead hpast (hasRead_append hread _)
  have hthis : ∀ found, s.accounts.findOne address = some found → found = account :=
    fun found hfound => Option.some_inj.mp (hfound.symm.trans hfind)
  constructor
  · exact hs.cached
  · intro other hmissing day
    have hne : address ≠ other := by
      rintro rfl
      exact nomatch hfind.symm.trans hmissing
    obtain ⟨hspent, hrecorded⟩ := hs.unknown other hmissing day
    constructor
    · simp only [World.count, Function.update_of_ne hne.symm]
      exact hspent
    · rw [recordedOn_count, hrecorded, if_neg fun h => hne h.1]
      rfl
  · intro other found maxDailySpend hfound hmax hne day
    have hcounted := hs.counted other found maxDailySpend hfound hmax hne day
    rw [counted_count, spentOn_count, hcounted]
    by_cases hsame : address = other ∧ dayOf last.1.now = day
    · obtain ⟨rfl, rfl⟩ := hsame
      obtain rfl := hthis found hfound
      have htold := (room_of_passed hamount htold hpassed hmax hne
        (htime found hfound maxDailySpend hmax)).1
      rw [htold]
    · rw [if_neg hsame, if_neg hsame]
  · intro other found maxDailySpend hfound hmax day
    rw [recordedOn_count, spentOn_count]
    have hkept := hs.kept other found maxDailySpend hfound hmax day
    by_cases hsame : address = other ∧ dayOf last.1.now = day
    · obtain ⟨rfl, rfl⟩ := hsame
      obtain rfl := hthis found hfound
      have hnow := htime found hfound maxDailySpend hmax
      simp only [and_self, if_true]
      right
      by_cases hzero : maxDailySpend = 0
      · -- What is not checked does not add to what is spent.
        subst hzero
        rw [RecordsInTime, if_pos rfl] at hnow
        have hn := Number.nonpos_of_ofInt hamount hnow
        have hspent : s.spentOn address (dayOf last.1.now) ≤ 0 := by
          rcases hkept with hnone | hle
          · rw [World.spentOn, hnone]
            exact Int.le_refl _
          · exact_mod_cast hle
        exact_mod_cast Int.add_nonpos hspent hn
      · have hroom := (room_of_passed hamount htold hpassed hmax hzero hnow).2
        rw [hs.counted address found maxDailySpend hfound hmax hzero] at hroom
        exact hroom
    · rw [if_neg hsame, if_neg hsame, List.append_nil, Int.add_zero]
      exact hkept

/-- Whatever an access does, it keeps what is sound if it is prudent. -/
theorem sound_deed (hs : Sound s) (hpast : Past Later Sound seen s) (hdeed : Deed call seen s t)
    (hprudent : Prudent call seen s t) : Sound t := by
  cases hdeed with
  | aside _ haccounts hrules hspent hrecordings =>
      -- The access leaves everything the invariant speaks of.
      constructor
      · rw [haccounts, hrules]
        exact hs.cached
      · simp only [World.recordedOn, haccounts, hspent, hrecordings]
        exact hs.unknown
      · simp only [World.counted, World.spentOn, World.recordedOn, haccounts, hspent, hrecordings]
        exact hs.counted
      · simp only [World.spentOn, World.recordedOn, haccounts, hrecordings]
        exact hs.kept
  | forget address => exact sound_setRules hs fun _ hnew => nomatch hnew
  | cache address rules p hseen account hfind hrules =>
      -- The rules were read from an account, whose rules never change.
      refine sound_setRules hs fun new hnew => ?_
      obtain rfl := Option.some_inj.mp hnew
      obtain ⟨account', hfind', hsame⟩ := (hpast.past p hseen).accounts address account hfind
      exact ⟨account', hfind', hsame.trans hrules⟩
  | add account hnew => exact sound_add hs hnew
  | change address status => exact sound_change address status hs
  -- The counter is raised before the transaction is recorded.
  | record message address n told rules init last hcall hgiven hamount htold hseen hread
      hpassed =>
      subst hcall hseen
      refine sound_record hs hpast hamount htold hread hpassed ?_
      refine (hprudent address hgiven).2 ?_
      rw [World.count, List.length_append]
      exact Nat.lt_succ_self _

theorem limits_law : HistoryLaw Does Prudent Later Sound where
  refl := later_refl
  trans _ _ _ := later_trans
  step _ _ _ _ hs hpast _ hdoes hprudent := ⟨hdoes.1, sound_deed hs hpast hdoes.2 hprudent⟩

end Sound

/-! ### Session keys -/

/-- Whatever has been seen, the accesses do what accesses do. -/
def Quiet (call : Call) {α : Type} (p : Service α) : Prop :=
  ∀ seen, p.Follows (watching (Does call)) (fun _ _ => True) seen

section Quiet

variable {call : Call} {α β : Type}

theorem does_same (call : Call) (seen : List (World × World)) (s : World) : Does call seen s s :=
  ⟨later_refl s, .aside s s rfl rfl rfl rfl⟩

theorem quiet_bind {p : Service α} {f : α → Service β} (hp : Quiet call p)
    (hf : ∀ a, Quiet call (f a)) : Quiet call (p.bind f) := by
  intro seen
  refine follows_bind (follows_mono (hp seen) fun seen' r _ => ?_)
  cases r with
  | ok a => exact hf a seen'
  | error e => trivial

theorem quiet_query {act : World → α × World} (h : ∀ seen s, Does call seen s (act s).2) :
    Quiet call (query act) :=
  fun seen => follows_watching fun s => ⟨h seen s, trivial⟩

theorem quiet_read (find : World → α) : Quiet call (query fun s => (find s, s)) :=
  quiet_query fun seen s => does_same call seen s

theorem quiet_done (a : α) : Quiet call (done a) := fun _ => trivial

theorem quiet_require (ok : Bool) (e : String) : Quiet call (require ok e) := by
  intro seen
  cases ok <;> trivial

theorem quiet_demand (o : Option α) (e : String) : Quiet call (demand o e) := by
  intro seen
  cases o <;> trivial

theorem quiet_command {act : World → Except String α × World}
    (h : ∀ seen s, Does call seen s (act s).2) : Quiet call (command act) := by
  refine quiet_bind (quiet_query h) fun answer seen => ?_
  cases answer <;> trivial

/-- An access to what the policy is not about. -/
theorem quiet_aside {act : World → α × World} (hlater : ∀ s, Later s (act s).2)
    (haccounts : ∀ s, (act s).2.accounts = s.accounts) (hrules : ∀ s, (act s).2.rules = s.rules)
    (hspent : ∀ s, (act s).2.spent = s.spent)
    (hrecordings : ∀ s, (act s).2.recordings = s.recordings) : Quiet call (query act) :=
  quiet_query fun _ s =>
    ⟨hlater s, .aside s _ (haccounts s) (hrules s) (hspent s) (hrecordings s)⟩

theorem quiet_setPermissions (sessionKeyAddress : String) (permissions : Permissions) (ttl : ℚ) :
    Quiet call (redisClient.setPermissions sessionKeyAddress permissions ttl) := by
  refine quiet_command fun seen s => ?_
  split
  · exact does_same call seen s
  · split
    · exact does_same call seen s
    · exact ⟨later_setPermissions .., .aside s _ rfl rfl rfl rfl⟩

theorem quiet_delPermissions (sessionKeyAddress : String) :
    Quiet call (redisClient.delPermissions sessionKeyAddress) :=
  quiet_aside (fun s => later_setPermissions s _ _) (fun _ => rfl) (fun _ => rfl) (fun _ => rfl)
    fun _ => rfl

theorem quiet_updateSessionKey (id : Nat) {status : SessionKeyStatus} (h : status ≠ .ACTIVE) :
    Quiet call (sessionKeyRepository.update id status) :=
  quiet_aside (fun s => later_setSessionKey s id h) (fun _ => rfl) (fun _ => rfl) (fun _ => rfl)
    fun _ => rfl

theorem createSessionKey_quiet (smartAccountAddress sessionKeyAddress : String)
    (permissions : Permissions) :
    Quiet call (createSessionKey smartAccountAddress sessionKeyAddress permissions) := by
  refine quiet_bind (quiet_read _) fun smartAccount => ?_
  refine quiet_bind (quiet_require _ _) fun _ => ?_
  refine quiet_bind (quiet_read _) fun now => ?_
  refine quiet_bind (quiet_demand _ _) fun expiresAt => ?_
  refine quiet_bind (quiet_aside (fun s => later_addSessionKey s _) (fun _ => rfl) (fun _ => rfl)
    (fun _ => rfl) fun _ => rfl) fun _ => ?_
  exact quiet_bind (quiet_setPermissions _ _ _) fun _ => quiet_done _

theorem validateSessionKey_quiet (sessionKeyAddress : String) (request : SessionRequest)
    (choice : Nat) : Quiet call (validateSessionKey sessionKeyAddress request choice) := by
  refine quiet_bind (quiet_read _) fun cached => ?_
  cases cached with
  | some permissions => exact quiet_done _
  | none =>
      refine quiet_bind (quiet_read _) fun found => ?_
      cases found with
      | none => exact quiet_done _
      | some row =>
          dsimp only
          -- A key that is not active, one that has expired, and one that is good.
          split
          · exact quiet_done _
          · refine quiet_bind (quiet_read _) fun now => ?_
            split
            · exact quiet_bind (quiet_updateSessionKey _ (by decide)) fun _ => quiet_done _
            · refine quiet_bind (quiet_read _) fun now => ?_
              exact quiet_bind (quiet_setPermissions _ _ _) fun _ => quiet_done _

theorem revokeSessionKey_quiet (sessionKeyAddress : String) (choice : Nat) :
    Quiet call (revokeSessionKey sessionKeyAddress choice) := by
  refine quiet_bind (quiet_read _) fun found => ?_
  refine quiet_bind (quiet_demand _ _) fun row => ?_
  exact quiet_bind (quiet_updateSessionKey _ (by decide)) fun _ => quiet_delPermissions _

end Quiet

/-! ### Requests -/

section Requests

variable {call : Call} {message : AuthorizationRequest} {address : String} {rules : Rules}
  {seen : List (World × World)} {α : Type}

/-- Reading adds what was found to what has been seen. -/
theorem follows_reading {find : World → α} {R : List (World × World) → Except String α → Prop}
    (h : ∀ s, R (seen ++ [(s, s)]) (.ok (find s))) :
    (query fun s => (find s, s)).Follows (watching (Does call)) R seen :=
  follows_watching fun s => ⟨does_same call seen s, h s⟩

/-- The check passes when there is room, or no limit it takes for one. -/
theorem checkDailySpend_follows (hread : HasRead address seen rules) :
    (checkDailySpend address rules (Number.ofInt message.amount)).Follows (watching (Does call))
      (fun seen' r => r = .ok none →
        HasRead address seen' rules ∧ Passed message address seen' rules) seen := by
  unfold checkDailySpend
  cases hlimit : rules.maxDailySpend.filter (· ≠ 0) with
  | none =>
      refine fun _ => ⟨hread, fun maxDailySpend hmax hne => ?_⟩
      rw [hmax, Option.filter_some_pos (by simpa using hne)] at hlimit
      exact nomatch hlimit
  | some limit =>
      refine follows_bind (follows_reading fun start => ?_)
      refine follows_bind (follows_reading fun check => fun hnone => ?_)
      obtain ⟨hmax, -⟩ := Option.filter_eq_some_iff.mp hlimit
      refine ⟨hasRead_append (hasRead_append hread _) _, fun maxDailySpend hsome _ => ?_⟩
      obtain rfl := Option.some_inj.mp (hsome.symm.trans hmax)
      refine ⟨seen, (start, start), (check, check), List.append_assoc .., ?_⟩
      -- What the counter reads as a text is the number nearest to it.
      have hparse : Number.parseInt (((check.spent address (dayOf start.now)).map toString).getD
          "0") = Number.ofInt (check.counted address (dayOf start.now)) := by
        rw [World.counted]
        cases check.spent address (dayOf start.now) with
        | none => exact Number.parseInt_repr 0
        | some n => exact Number.parseInt_repr n
      by_contra habove
      rw [Bool.not_eq_false, ← hparse] at habove
      simp [habove] at hnone

theorem checkRules_follows (hread : HasRead address seen rules) :
    (checkRules address rules (Number.ofInt message.amount) message.programId).Follows
      (watching (Does call)) (fun seen' r => ∀ result, r = .ok result → result.valid = true →
        HasRead address seen' rules ∧ Passed message address seen' rules ∧
          allowsProgram rules message.programId = true) seen := by
  refine follows_bind (follows_mono (checkDailySpend_follows hread) fun seen' r hr => ?_)
  cases r with
  | error e => exact fun _ hno => nomatch hno
  | ok reason =>
      -- The daily limit is checked before the program.
      cases reason with
      | some reason =>
          rintro result ⟨⟩ hvalid
          exact nomatch hvalid
      | none =>
          obtain ⟨hread', hpassed⟩ := hr rfl
          dsimp only
          split
          · exact fun _ _ _ => ⟨hread', hpassed, by assumption⟩
          · rintro result ⟨⟩ hvalid
            exact nomatch hvalid

/-- A request that is valid has read the rules, passed the check and may use the
    program. -/
def Validated (message : AuthorizationRequest) (address : String) (seen : List (World × World)) :
    Prop :=
  ∃ rules, HasRead address seen rules ∧ Passed message address seen rules ∧
    allowsProgram rules message.programId = true

theorem validateTransaction_follows :
    (validateTransaction address (Number.ofInt message.amount) message.programId).Follows
      (watching (Does call)) (fun seen' r => ∀ result, r = .ok result → result.valid = true →
        Validated message address seen') [] := by
  -- Once the rules are read, the rest is checking them.
  have hrules : ∀ seen rules, HasRead address seen rules →
      (checkRules address rules (Number.ofInt message.amount) message.programId).Follows
        (watching (Does call)) (fun seen' r => ∀ result, r = .ok result → result.valid = true →
          Validated message address seen') seen :=
    fun seen rules hread => follows_mono (checkRules_follows hread)
      fun _ _ h result hr hvalid => ⟨rules, h result hr hvalid⟩
  refine follows_bind (follows_reading fun s => ?_)
  dsimp only
  split
  · -- They are in the cache.
    next rules hcached => exact hrules _ rules (Or.inl ⟨_, rfl, hcached⟩)
  · -- They are not, so the account is read and its rules are cached.
    refine follows_bind (follows_reading fun s' => ?_)
    dsimp only
    split
    · rintro result ⟨⟩ hvalid
      exact nomatch hvalid
    · next account hfind =>
        split
        · rintro result ⟨⟩ hvalid
          exact nomatch hvalid
        · next hactive =>
            rw [ne_eq, not_not] at hactive
            refine follows_bind (follows_watching fun u => ⟨⟨later_setRules .., ?_⟩, ?_⟩)
            · exact .cache u address account.rules (s', s') (by simp) account hfind rfl
            · refine hrules _ account.rules (Or.inr ⟨(s', s'), by simp, account, hfind, ?_⟩)
              exact ⟨hactive, rfl⟩

/-- An amount is counted, or refused. -/
theorem counting_cases (address : String) (day : Int) (amount : Number) (s : World) :
    (∃ n told, amount = .int n ∧ amount.asInteger = some told ∧
      redisClient.counting address day amount s = (.ok (), s.count address day n told)) ∨
    ∃ e, redisClient.counting address day amount s = (.error e, s) := by
  unfold redisClient.counting
  split
  · next n told htold =>
      split
      · split
        · exact Or.inl ⟨n, told, rfl, htold, rfl⟩
        · exact Or.inr ⟨_, rfl⟩
      · exact Or.inr ⟨_, rfl⟩
  · exact Or.inr ⟨_, rfl⟩

theorem recordTransaction_follows (hgiven : given message.smartAccountAddress = some address)
    (hvalid : Validated message address seen) :
    (recordTransaction address (Number.ofInt message.amount)).Follows
      (watching (Does (.handleAuthorizationRequest message)))
      (fun seen' r => r = .ok () → ∃ more, seen' = seen ++ more) seen := by
  obtain ⟨rules, hread, hpassed, -⟩ := hvalid
  refine follows_bind (follows_reading fun last => ?_)
  refine follows_bind (follows_bind (follows_watching fun s => ?_))
  -- The counter is told the amount, or refuses it.
  rcases counting_cases address (dayOf last.now) (Number.ofInt message.amount) s with
    ⟨n, told, hamount, htold, hcount⟩ | ⟨e, herror⟩
  · rw [hcount]
    refine ⟨⟨later_count .., .record s message address n told rules seen (last, last) rfl hgiven
      hamount (hamount ▸ htold) rfl hread hpassed⟩, ?_⟩
    refine follows_reading fun u _ =>
      ⟨[(last, last), (s, s.count address (dayOf last.now) n told), (u, u)], ?_⟩
    simp
  · rw [herror]
    exact ⟨does_same _ _ s, fun hno => nomatch hno⟩

/-- A request that is authorized has read rules that allow its program. -/
def Answered (call : Call) (seen : List (World × World)) (r : Except String Unit) : Prop :=
  ∀ message, call = .handleAuthorizationRequest message → r = .ok () →
    ∃ address, given message.smartAccountAddress = some address ∧
      ∃ rules, HasRead address seen rules ∧ allowsProgram rules message.programId = true

theorem handleAuthorizationRequest_follows (message : AuthorizationRequest) :
    (handleAuthorizationRequest message).Follows
      (watching (Does (.handleAuthorizationRequest message)))
      (fun seen r => ∀ transactionId address, r = .ok (.authorized transactionId address) →
        given message.smartAccountAddress = some address ∧
          ∃ rules, HasRead address seen rules ∧ allowsProgram rules message.programId = true)
      [] := by
  unfold handleAuthorizationRequest
  split
  · next transactionId address htransaction hgiven =>
      refine follows_bind (follows_mono validateTransaction_follows fun seen r hr => ?_)
      cases r with
      | error e => exact fun _ _ hno => nomatch hno
      | ok result =>
          dsimp only
          split
          · -- The transaction is valid, and recording it reads no other rules.
            next hvalid =>
              have hvalidated := hr result rfl hvalid
              refine follows_bind (follows_mono (recordTransaction_follows hgiven hvalidated)
                fun seen' r hr' => ?_)
              cases r with
              | error e => exact fun _ _ hno => nomatch hno
              | ok _ =>
                  obtain ⟨more, rfl⟩ := hr' rfl
                  obtain ⟨rules, hread, -, hallowed⟩ := hvalidated
                  rintro _ _ ⟨⟩
                  exact ⟨hgiven, rules, hasRead_append hread more, hallowed⟩
          · exact fun _ _ hno => nomatch hno
  · exact fun _ _ hno => nomatch hno

/-- The rules that are cached have been stored with the account. -/
theorem createSmartAccount_quiet (ownerAddress : String) (rules : Rules) :
    Quiet call (createSmartAccount ownerAddress rules) := by
  intro seen
  refine follows_bind (follows_reading fun s => ?_)
  refine follows_bind (follows_bind (follows_watching fun u => ?_))
  dsimp only
  -- A second account of an address is refused.
  split
  · exact ⟨does_same _ _ u, trivial⟩
  · next hnew =>
      rw [Bool.not_eq_true, Option.isSome_eq_false_iff, Option.isNone_iff_eq_none] at hnew
      refine ⟨⟨later_addAccount hnew, .add u _ hnew⟩, ?_⟩
      refine follows_bind (follows_watching fun v => ⟨⟨later_setRules .., ?_⟩, trivial⟩)
      refine .cache v _ rules (u, _) (List.mem_append_right _ (List.mem_singleton_self _)) _
        (Table.findOne_save_self ..) rfl

theorem call_follows (call : Call) :
    call.program.Follows (watching (Does call)) (Answered call) [] := by
  -- A call that is no request has nothing to answer for.
  have hother : ∀ {p : Service Unit}, Quiet call p →
      (∀ message, call ≠ .handleAuthorizationRequest message) →
      p.Follows (watching (Does call)) (Answered call) [] :=
    fun hquiet hne => follows_mono (hquiet []) fun _ _ _ message hcall => absurd hcall (hne message)
  cases call with
  | handleAuthorizationRequest message =>
      refine follows_bind (follows_mono (handleAuthorizationRequest_follows message)
        fun seen r hr => ?_)
      rcases r with e | ⟨_ | ⟨transactionId, address⟩ | _⟩
      · exact fun _ _ hno => nomatch hno
      · exact fun _ _ hno => nomatch hno
      · rintro _ ⟨⟩ -
        exact ⟨address, hr transactionId address rfl⟩
      · exact fun _ _ hno => nomatch hno
  | createSmartAccount ownerAddress rules =>
      exact hother (quiet_bind (createSmartAccount_quiet _ _) fun _ => quiet_done _) nofun
  | createSessionKey smartAccountAddress sessionKeyAddress permissions =>
      exact hother (quiet_bind (createSessionKey_quiet _ _ _) fun _ => quiet_done _) nofun
  | validateSessionKey sessionKeyAddress request choice =>
      exact hother (quiet_bind (validateSessionKey_quiet _ _ _) fun _ => quiet_require _ _) nofun
  | revokeSessionKey sessionKeyAddress choice =>
      exact hother (revokeSessionKey_quiet _ _) nofun
  | changeStatus address status =>
      refine hother (quiet_query fun seen s => ⟨later_changeStatus s address status, ?_⟩) nofun
      exact .change s address status
  | pass milliseconds =>
      exact hother (quiet_aside (fun s => later_pass s milliseconds) (fun _ => rfl) (fun _ => rfl)
        (fun _ => rfl) fun _ => rfl) nofun
  | evictRules address =>
      refine hother (quiet_query fun seen s => ⟨later_setRules .., ?_⟩) nofun
      exact .forget s address
  | evictPermissions sessionKeyAddress => exact hother (quiet_delPermissions _) nofun

end Requests

/-! ### Schedules -/

section Schedules

/-- Whoever has read the rules prudently has found the account active. -/
theorem active_of_hasRead {message : AuthorizationRequest} {address : String} {rules : Rules}
    {s : World} {seen : List (World × World)}
    (hgiven : given message.smartAccountAddress = some address)
    (hmet : Met Prudent (.handleAuthorizationRequest message) seen)
    (hpast : Past Later Sound seen s) (hread : HasRead address seen rules) :
    ∃ p ∈ seen, ∃ account, p.1.accounts.findOne address = some account ∧
      account.status = .ACTIVE ∧ account.rules = rules := by
  -- Rules from the cache come without a status, so the account has to be active then.
  rcases hread with ⟨p, hp, hcached⟩ | hfound
  · cases seen with
    | nil => exact nomatch hp
    | cons q rest =>
        obtain rfl := Option.some_inj.mp hp
        have hmem : q ∈ q :: rest := List.mem_cons_self ..
        obtain ⟨account, hfind, hactive⟩ := (hmet [] q rest rfl address hgiven).1 rfl
          (Option.isSome_iff_exists.mpr ⟨rules, hcached⟩)
        obtain ⟨found, hfound, hrules⟩ := (hpast.kept q hmem).cached address rules hcached
        obtain rfl := Option.some_inj.mp (hfound.symm.trans hfind)
        exact ⟨q, hmem, found, hfind, hactive, hrules⟩
  · exact hfound

theorem withinPolicy_of_recalled {r : Recorded World String Call}
    (h : Recalled Does Prudent Answered Later Sound r) : WithinPolicy r := by
  refine ⟨h.store.kept, fun w hw message hcall hok => ?_⟩
  have hw' := h.calls w hw
  obtain ⟨address, hgiven, rules, hread, hallowed⟩ :=
    follows_outcome hw'.follows hok message hcall rfl
  have hmet := hw'.met
  rw [hcall] at hmet
  obtain ⟨p, hp, account, hfind, hactive, rfl⟩ :=
    active_of_hasRead hgiven hmet hw'.past hread
  refine ⟨address, hgiven, p.1, hw'.found p hp, account, hfind, hactive, ?_⟩
  -- What remains is that the program is on the list, if there is one.
  intro allowedPrograms hprograms
  rw [allowsProgram, hprograms, Option.all_some] at hallowed
  obtain ⟨programId, hprogram, hmem⟩ := (Option.any_eq_true ..).mp hallowed
  exact ⟨programId, hprogram, by simpa using hmem⟩

theorem sound_start (now : Int) : Sound { now } where
  cached _ _ h := nomatch h
  unknown _ _ _ := ⟨rfl, rfl⟩
  counted _ _ _ h := nomatch h
  kept _ _ _ h := nomatch h

/-- Whatever calls are made of an empty service, whatever happens outside, and
    in whatever order the accesses are made: as long as those of requests are
    prudent, no limit is exceeded and nothing is authorized for an account that
    is not active. -/
theorem withinPolicy_along (now : Int) (moves : List (Move Call))
    (h : Along (record Call.program) (fun m r _ _ => heeds Prudent m r) moves ⟨{ now }, []⟩) :
    Along (record Call.program) (fun _ _ _ r => WithinPolicy r) moves ⟨{ now }, []⟩ :=
  along_recalled limits_law call_follows (fun _ => withinPolicy_of_recalled)
    (recalled_start (sound_start now)) h

/-- An account with a limit, and requests for amounts. -/
def limitedCalls (maxDailySpend : ℚ) (amounts : List Int) : List (Move Call) :=
  [.start (.createSmartAccount "owner123" { maxDailySpend := some maxDailySpend }),
    .access 0, .access 0, .access 0] ++
  amounts.map fun amount => .start (.handleAuthorizationRequest
    { transactionId := some "tx", smartAccountAddress := some "smart-owner123-0000", amount })

/-- The rules are read at the same time, and the amounts are recorded one after
    the other. The last of them does not fit. -/
def recordedInTurn : List (Move Call) :=
  limitedCalls 100 [60, 30, 20] ++ [.access 1, .access 2, .access 3] ++
    List.replicate 5 (.access 1) ++ List.replicate 5 (.access 2) ++ List.replicate 5 (.access 3)

theorem withinPolicy_along_recordedInTurn :
    Along (record Call.program) (fun _ _ _ r => WithinPolicy r) recordedInTurn
      ⟨{ now := 1700000000000 }, []⟩ :=
  withinPolicy_along 1700000000000 recordedInTurn (by decide +kernel)

/-- One request for an account with a limit of zero. -/
def zeroLimit : List (Move Call) := limitedCalls 0 [5] ++ List.replicate 3 (.access 1)

/-- A limit of zero is exceeded by the first request. -/
theorem not_withinPolicy_along : ¬ ∀ (now : Int) (moves : List (Move Call)),
    Along (record Call.program) (fun _ _ _ r => WithinPolicy r) moves ⟨{ now }, []⟩ := by
  intro h
  have hpolicy := after_of_along (h 1700000000000 (zeroLimit ++ [.access 1]))
  revert hpolicy
  generalize hafter : after (record Call.program) (zeroLimit ++ [.access 1])
    ⟨{ now := 1700000000000 }, []⟩ = r
  intro hpolicy
  have hrules : (r.store.accounts.findOne "smart-owner123-0000").map
      (fun account => account.rules.maxDailySpend) = some (some 0) := by
    rw [← hafter]
    decide +kernel
  -- The limit is zero, and 5 was recorded.
  have hrecorded : r.store.recordedOn "smart-owner123-0000" 19675 = [5] := by
    rw [← hafter]
    decide +kernel
  obtain ⟨account, hfind, hmax⟩ := Option.map_eq_some_iff.mp hrules
  rcases hpolicy.limit _ account 0 hfind hmax 19675 with hnone | hle
  · exact nomatch hrecorded.symm.trans hnone
  · rw [World.spentOn, hrecorded] at hle
    exact absurd hle (by decide)

end Schedules

end SmartAccounts

end SvmCourse
