import Mathlib.Algebra.Order.Group.Int
import SvmCourse.Core.Machine
import SvmCourse.Security.Auth

/-!
# Account Lockout

Each wrong password is counted, and from the fifth on each of them locks the
account for a quarter of an hour. The count starts again with a login that
succeeds, and not when the lock has expired. So the count is that of the wrong
passwords since the last success, and after five of them the next one comes a
quarter of an hour later, if at all.

## Main definitions

* `attempt`: A login with a password at a time.
* `Guarded`: What is promised of an account.
* `Tracked`: The count and the lock are those of the checks.

## Theorems

* `attempt_cases`: What an attempt does.
* `tracked_after`: The count and the lock are right after every run.
* `account_guarded`: An account is guarded from its registration on.
-/

namespace SvmCourse

namespace Security

open Core Core.Prog Core.Machine Core.Throttle

/-! ### Attempts -/

/-- An attempt to log in. -/
structure Attempt where
  password : String
  now : Int

/-- One attempt on the tables. -/
def attempt (bcrypt : Bcrypt) (email : String) (world : World) (a : Attempt) :
    Except String User × World :=
  (login bcrypt ⟨email, a.password⟩ a.now).eval world

/-- An attempt that succeeds, made in a window of the time of a lock. -/
def SucceedsIn (start : Int) (entry : Attempt × Except String User) : Prop :=
  start ≤ entry.1.now ∧ entry.1.now < start + lockTime ∧ ∃ user, entry.2 = .ok user

/-- In a window without success, not more than five wrong passwords are checked.
    While the account is locked, none is checked. And the right password is
    accepted when it is not, and ends the count. -/
structure Guarded (bcrypt : Bcrypt) (email : String) (attempts : List Attempt) (world : World) :
    Prop where
  bounded : ∀ start, (∀ entry ∈ answers (attempt bcrypt email) attempts world,
      ¬SucceedsIn start entry) →
    (failuresIn start (start + lockTime)
      (after (attempt bcrypt email) attempts world).checks).length ≤ 5
  unchecked : Along (attempt bcrypt email) (fun a before _ later => ∀ user id,
      before.userOf email = some (user, id) → user.isLocked a.now = true →
      later.checks = before.checks) attempts world
  admitted : Along (attempt bcrypt email) (fun a before answer later => ∀ user id,
      before.userOf email = some (user, id) → user.status = .ACTIVE →
      user.isLocked a.now = false → bcrypt.compare a.password user.passwordHash = true →
      ∃ user', answer = .ok user' ∧ later.userOf email = some (user', id) ∧
        user'.loginAttempts = 0) attempts world

/-! ### Users -/

theorem userOf_eq_some {world : World} {email : String} {user : User} {id : Nat} :
    world.userOf email = some (user, id) ↔
      (world.users.map User.email).findIdx? (· = email) = some id ∧
        world.users[id]? = some user := by
  constructor
  · intro h
    obtain ⟨i, hi, hrest⟩ := Option.bind_eq_some_iff.mp h
    obtain ⟨u, hu, hpair⟩ := Option.bind_eq_some_iff.mp hrest
    cases hpair
    exact ⟨hi, hu⟩
  · rintro ⟨hid, huser⟩
    rw [World.userOf, hid]
    exact congrArg (fun found : Option User => found.bind fun u => some (u, id)) huser

/-- A user that is saved is found where it was. -/
theorem userOf_setUser {world : World} {email : String} {user user' : User} {id : Nat}
    (h : world.userOf email = some (user, id)) (hemail : user'.email = user.email) :
    (world.setUser id user').userOf email = some (user', id) := by
  obtain ⟨hid, huser⟩ := userOf_eq_some.mp h
  obtain ⟨hlt, hget⟩ := List.getElem?_eq_some_iff.mp huser
  -- The emails stay where they are, so the lookup finds the same place.
  have hemails : (world.users.set id user').map User.email = world.users.map User.email := by
    rw [List.map_set, hemail, ← hget]
    have hlt' : id < (world.users.map User.email).length := by rwa [List.length_map]
    have hself := List.set_getElem_self hlt'
    rwa [List.getElem_map] at hself
  refine userOf_eq_some.mpr ⟨?_, ?_⟩
  · rw [World.setUser, hemails]
    exact hid
  · exact List.getElem?_set_self hlt

/-- A user whose email was not there is found after it was inserted. -/
theorem userOf_insert {world : World} {user : User} (h : world.userOf user.email = none) :
    ({ world with users := world.users ++ [user] } : World).userOf user.email =
      some (user, world.users.length) := by
  -- Nobody before has the email.
  have hnone : (world.users.map User.email).findIdx? (· = user.email) = none := by
    by_contra hsome
    obtain ⟨id, hid⟩ := Option.ne_none_iff_exists'.mp hsome
    have hlt : id < world.users.length := by
      have := (List.findIdx?_eq_some_iff_getElem.mp hid).1
      rwa [List.length_map] at this
    have hfound := userOf_eq_some.mpr ⟨hid, List.getElem?_eq_getElem hlt⟩
    rw [h] at hfound
    exact nomatch hfound
  refine userOf_eq_some.mpr ⟨?_, List.getElem?_concat_length⟩
  rw [List.map_append, List.findIdx?_append, hnone]
  simp

/-! ### What an attempt does -/

section

variable {bcrypt : Bcrypt} {email : String} {world : World} {user : User} {id : Nat}
  {a : Attempt} {attempts : List Attempt}

/-- The user after a successful attempt. -/
def User.succeeded (user : User) (now : Int) : User :=
  { user with loginAttempts := 0, lastLoginAt := some now }

/-- The world after a password was checked and the user was saved. -/
def World.checked (world : World) (id : Nat) (user : User) (entry : Entry Int) : World :=
  { world.setUser id user with checks := entry :: world.checks }

/-- An attempt is refused, or the password is checked and matches or not. -/
theorem attempt_cases (bcrypt : Bcrypt) (h : world.userOf email = some (user, id)) (a : Attempt) :
    (user.canAttemptLogin a.now = false ∧
      attempt bcrypt email world a = (.error "Account is locked or inactive", world)) ∨
    (user.canAttemptLogin a.now = true ∧
      bcrypt.compare a.password user.passwordHash = true ∧ attempt bcrypt email world a =
        (.ok (user.succeeded a.now), world.checked id (user.succeeded a.now) ⟨a.now, true⟩)) ∨
    (user.canAttemptLogin a.now = true ∧
      bcrypt.compare a.password user.passwordHash = false ∧ attempt bcrypt email world a =
        (.error "Invalid credentials", world.checked id (user.failed a.now) ⟨a.now, false⟩)) := by
  have hfind : (userRepository.findOne email).eval world = (.ok (some (user, id)), world) :=
    congrArg (fun found => (Except.ok found, world)) h
  have hattempt : attempt bcrypt email world a = ((do
      require (user.canAttemptLogin a.now) "Account is locked or inactive"
      let isPasswordValid ← checkPassword bcrypt a.password user.passwordHash a.now
      if isPasswordValid then
        userRepository.save id (user.succeeded a.now)
        pure (user.succeeded a.now)
      else
        handleFailedLogin id user a.now
        raise "Invalid credentials" : Service User)).eval world := eval_bind_ok hfind
  rw [hattempt]
  -- The lock is checked before the password, and nothing is saved for it.
  cases hcan : user.canAttemptLogin a.now with
  | false => exact .inl ⟨rfl, rfl⟩
  | true =>
      cases hmatch : bcrypt.compare a.password user.passwordHash with
      | true =>
          refine .inr (.inl ⟨rfl, rfl, ?_⟩)
          have hcheck : (checkPassword bcrypt a.password user.passwordHash a.now).eval world =
              (.ok true, { world with checks := ⟨a.now, true⟩ :: world.checks }) := by
            rw [checkPassword, query, eval_perform, hmatch]
          exact eval_bind_ok hcheck
      | false =>
          refine .inr (.inr ⟨rfl, rfl, ?_⟩)
          have hcheck : (checkPassword bcrypt a.password user.passwordHash a.now).eval world =
              (.ok false, { world with checks := ⟨a.now, false⟩ :: world.checks }) := by
            rw [checkPassword, query, eval_perform, hmatch]
          exact eval_bind_ok hcheck

theorem userOf_checked {user' : User} {entry : Entry Int}
    (h : world.userOf email = some (user, id)) (hemail : user'.email = user.email) :
    (world.checked id user' entry).userOf email = some (user', id) :=
  userOf_setUser h hemail

theorem unchecked_attempt (h : world.userOf email = some (user, id))
    (hlocked : user.isLocked a.now = true) :
    (attempt bcrypt email world a).2.checks = world.checks := by
  have hcannot : user.canAttemptLogin a.now = false := by
    rw [User.canAttemptLogin, hlocked]
    rfl
  rcases attempt_cases bcrypt h a with ⟨-, hrefused⟩ | ⟨hcan, -⟩ | ⟨hcan, -⟩
  · rw [hrefused]
  · exact absurd (hcan.symm.trans hcannot) Bool.noConfusion
  · exact absurd (hcan.symm.trans hcannot) Bool.noConfusion

theorem admitted_attempt (h : world.userOf email = some (user, id))
    (hactive : user.status = .ACTIVE) (hunlocked : user.isLocked a.now = false)
    (hmatch : bcrypt.compare a.password user.passwordHash = true) :
    ∃ user', (attempt bcrypt email world a).1 = .ok user' ∧
      (attempt bcrypt email world a).2.userOf email = some (user', id) ∧
        user'.loginAttempts = 0 := by
  have hcan : user.canAttemptLogin a.now = true := by
    rw [User.canAttemptLogin, hunlocked, hactive]
    rfl
  rcases attempt_cases bcrypt h a with
    ⟨hcannot, -⟩ | ⟨-, -, hsucceeded⟩ | ⟨-, hwrong, -⟩
  · exact absurd (hcan.symm.trans hcannot) Bool.noConfusion
  · rw [hsucceeded]
    exact ⟨user.succeeded a.now, rfl, userOf_checked h rfl, rfl⟩
  · exact absurd (hmatch.symm.trans hwrong) Bool.noConfusion

/-! ### Runs -/

/-- The count is that of the wrong passwords since the last success, and after
    five of them the account is locked until a while after the last check. -/
structure Tracked (world : World) (user : User) : Prop where
  counted : user.loginAttempts = streak world.checks
  locked : 5 ≤ streak world.checks → ∀ last ∈ world.checks.head?,
    user.lockedUntil = some (last.time + lockTime)
  throttled : Throttled 5 lockTime world.checks
  ordered : Ordered world.checks

/-- The account with its count, and no check was later than the attempts to come. -/
def Ready (email : String) (attempts : List Attempt) (world : World) : Prop :=
  (∃ user id, world.userOf email = some (user, id) ∧ Tracked world user) ∧
    ∀ entry ∈ world.checks, ∀ a ∈ attempts, entry.time ≤ a.now

/-- A check that is made is not early. -/
theorem late_of_unlocked (h : Tracked world user) (hcan : user.canAttemptLogin a.now = true)
    (hfull : 5 ≤ streak world.checks) :
    ∀ last ∈ world.checks.head?, last.time + lockTime ≤ a.now := by
  intro last hlast
  have huntil := h.locked hfull last hlast
  rw [User.canAttemptLogin, Bool.and_eq_true, User.isLocked, huntil] at hcan
  simpa using hcan.1

theorem tracked_checked {user' : User} {success : Bool} (h : Tracked world user)
    (hcan : user.canAttemptLogin a.now = true)
    (hbefore : ∀ entry ∈ world.checks, entry.time ≤ a.now)
    (hcounted : user'.loginAttempts = streak (⟨a.now, success⟩ :: world.checks))
    (hlocked : 5 ≤ streak (⟨a.now, success⟩ :: world.checks) →
      user'.lockedUntil = some (a.now + lockTime)) :
    Tracked (world.checked id user' ⟨a.now, success⟩) user' where
  counted := hcounted
  locked hfull last hlast := by
    cases hlast
    exact hlocked hfull
  throttled := ⟨late_of_unlocked h hcan, h.throttled⟩
  ordered := List.pairwise_cons.mpr ⟨hbefore, h.ordered⟩

theorem ready_attempt (h : Ready email (a :: attempts) world)
    (hlater : ∀ b ∈ attempts, a.now ≤ b.now) :
    Ready email attempts (attempt bcrypt email world a).2 := by
  obtain ⟨⟨user, id, hfound, htracked⟩, hbefore⟩ := h
  have hrest : ∀ entry ∈ world.checks, ∀ b ∈ attempts, entry.time ≤ b.now :=
    fun entry hentry b hb => hbefore entry hentry b (List.mem_cons_of_mem _ hb)
  have hnow : ∀ entry ∈ world.checks, entry.time ≤ a.now :=
    fun entry hentry => hbefore entry hentry a (List.mem_cons_self ..)
  -- What is checked now is not later than what is still to come.
  have hchecked : ∀ success, ∀ entry ∈ (⟨a.now, success⟩ : Entry Int) :: world.checks,
      ∀ b ∈ attempts, entry.time ≤ b.now :=
    fun success => List.forall_mem_cons.mpr ⟨hlater, hrest⟩
  rcases attempt_cases bcrypt hfound a with
    ⟨-, hrefused⟩ | ⟨hcan, -, hsucceeded⟩ | ⟨hcan, -, hfailed⟩
  · rw [hrefused]
    exact ⟨⟨user, id, hfound, htracked⟩, hrest⟩
  · rw [hsucceeded]
    refine ⟨⟨user.succeeded a.now, id, userOf_checked hfound rfl, ?_⟩, hchecked true⟩
    -- A success begins a new row of zero failures.
    exact tracked_checked htracked hcan hnow rfl fun hfull => absurd hfull (Nat.not_succ_le_zero 4)
  · rw [hfailed]
    refine ⟨⟨user.failed a.now, id, userOf_checked hfound rfl, ?_⟩, hchecked false⟩
    -- The count was that of the row, and both grow by one.
    have hcount : user.loginAttempts + 1 = streak (⟨a.now, false⟩ :: world.checks) := by
      rw [htracked.counted]
      rfl
    refine tracked_checked htracked hcan hnow hcount fun hfull => ?_
    rw [User.failed, if_pos (by omega)]

/-- The count and the lock are right after every run. -/
theorem tracked_after (bcrypt : Bcrypt) (hsorted : attempts.Pairwise fun a b => a.now ≤ b.now)
    (h : Ready email attempts world) :
    Ready email [] (after (attempt bcrypt email) attempts world) := by
  induction attempts generalizing world with
  | nil => exact h
  | cons a attempts ih =>
      obtain ⟨hlater, hrest⟩ := List.pairwise_cons.mp hsorted
      exact ih hrest (ready_attempt h hlater)

/-- A check is made by the attempt, and it matches if the attempt succeeds. -/
theorem checked_attempt (bcrypt : Bcrypt) (h : world.userOf email = some (user, id)) (a : Attempt) :
    (∃ user' id', (attempt bcrypt email world a).2.userOf email = some (user', id')) ∧
      ∀ entry ∈ (attempt bcrypt email world a).2.checks, entry ∈ world.checks ∨
        entry.time = a.now ∧
          (entry.success = true → ∃ user', (attempt bcrypt email world a).1 = .ok user') := by
  -- A locked account is refused without a check.
  rcases attempt_cases bcrypt h a with
    ⟨-, hrefused⟩ | ⟨-, -, hsucceeded⟩ | ⟨-, -, hfailed⟩
  · rw [hrefused]
    exact ⟨⟨user, id, h⟩, fun entry hentry => .inl hentry⟩
  · rw [hsucceeded]
    refine ⟨⟨user.succeeded a.now, id, userOf_checked h rfl⟩, fun entry hentry => ?_⟩
    rcases List.mem_cons.mp hentry with rfl | hold
    · exact .inr ⟨rfl, fun _ => ⟨user.succeeded a.now, rfl⟩⟩
    · exact .inl hold
  · rw [hfailed]
    refine ⟨⟨user.failed a.now, id, userOf_checked h rfl⟩, fun entry hentry => ?_⟩
    rcases List.mem_cons.mp hentry with rfl | hold
    · exact .inr ⟨rfl, Bool.noConfusion⟩
    · exact .inl hold

/-- Checks are made by attempts, and those that match by attempts that succeed. -/
theorem attempt_of_check (attempts : List Attempt)
    (hfound : ∃ user id, world.userOf email = some (user, id)) :
    ∀ entry ∈ (after (attempt bcrypt email) attempts world).checks, entry ∈ world.checks ∨
      ∃ made ∈ answers (attempt bcrypt email) attempts world, made.1.now = entry.time ∧
        (entry.success = true → ∃ user, made.2 = .ok user) := by
  -- A check is old, or of the first attempt, or of a later one.
  induction attempts generalizing world with
  | nil => exact fun entry hentry => .inl hentry
  | cons a attempts ih =>
      intro entry hentry
      obtain ⟨user, id, huser⟩ := hfound
      obtain ⟨hfound', hchecks⟩ := checked_attempt bcrypt huser a
      rcases ih hfound' entry hentry with hold | ⟨made, hmade, hrest⟩
      · rcases hchecks entry hold with hold | ⟨htime, hok⟩
        · exact .inl hold
        · exact .inr ⟨_, List.mem_cons_self .., htime.symm, hok⟩
      · exact .inr ⟨made, List.mem_cons_of_mem _ hmade, hrest⟩

/-- An account without checks that was not locked is guarded. -/
theorem guarded_of_new (hfound : world.userOf email = some (user, id))
    (hcount : user.loginAttempts = 0) (hchecks : world.checks = [])
    (hsorted : attempts.Pairwise fun a b => a.now ≤ b.now) :
    Guarded bcrypt email attempts world where
  bounded start hnone := by
    have hready : Ready email attempts world := by
      refine ⟨⟨user, id, hfound, ?_⟩, ?_⟩
      · exact {
          counted := by rw [hchecks, hcount]; rfl
          locked := fun hfull => by rw [hchecks] at hfull; exact absurd hfull (by decide)
          throttled := by rw [hchecks]; exact trivial
          ordered := by rw [hchecks]; exact List.Pairwise.nil }
      · rw [hchecks]
        exact fun _ h => absurd h List.not_mem_nil
    -- The log of checks is throttled, and its successes are the attempts'.
    obtain ⟨⟨user', id', -, htracked⟩, -⟩ := tracked_after bcrypt hsorted hready
    refine failuresIn_le (by decide) htracked.ordered htracked.throttled fun entry hentry hok => ?_
    rintro ⟨hstart, hstop⟩
    rcases attempt_of_check attempts ⟨user, id, hfound⟩ entry hentry with
      hold | ⟨made, hmade, htime, hsuccess⟩
    · rw [hchecks] at hold
      exact absurd hold List.not_mem_nil
    · rw [← htime] at hstart hstop
      exact hnone made hmade ⟨hstart, hstop, hsuccess hok⟩
  unchecked := along_of_forall (fun _ _ _ _ h hlocked => unchecked_attempt h hlocked) attempts world
  admitted := along_of_forall
    (fun _ _ _ _ h hactive hunlocked hmatch => admitted_attempt h hactive hunlocked hmatch)
    attempts world

/-- What registering does. -/
theorem register_cases {dto : RegisterUserDto} {salt : String} {world' : World}
    (h : (register bcrypt dto salt).eval world = (.ok user, world')) :
    user.loginAttempts = 0 ∧
      world'.userOf dto.email = some (user, world.users.length) := by
  -- An email that is taken is refused.
  cases hexisting : world.userOf dto.email with
  | some row =>
      have hfind : (userRepository.findOne dto.email).eval world = (.ok (some row), world) :=
        congrArg (fun found => (Except.ok found, world)) hexisting
      have hrefused := (eval_bind_ok hfind).symm.trans h
      exact nomatch congrArg Prod.fst hrefused
  | none =>
      have hfind : (userRepository.findOne dto.email).eval world = (.ok none, world) :=
        congrArg (fun found => (Except.ok found, world)) hexisting
      have hregistered := (eval_bind_ok hfind).symm.trans h
      cases hregistered
      exact ⟨rfl, userOf_insert hexisting⟩

/-- From its registration on, an account is guarded. -/
theorem account_guarded {dto : RegisterUserDto} {salt : String} {world' : World}
    (hregistered : (register bcrypt dto salt).eval world = (.ok user, world'))
    (hsorted : attempts.Pairwise fun a b => a.now ≤ b.now) :
    Guarded bcrypt dto.email attempts { world' with checks := [] } := by
  obtain ⟨hcount, hfound⟩ := register_cases hregistered
  exact guarded_of_new hfound hcount rfl hsorted

end

/-- Hashes that carry their password. -/
def sampleBcrypt : Bcrypt where
  hash password _ salt := salt ++ password
  compare password passwordHash := passwordHash = "$2b$12$" ++ password

/-- Five wrong passwords, the right one while the account is locked, a wrong one
    after that, and the right one in the end. -/
def sampleAttempts : List Attempt :=
  [⟨"a", 0⟩, ⟨"b", 1⟩, ⟨"c", 2⟩, ⟨"d", 3⟩, ⟨"e", 4⟩, ⟨"secret", 5⟩, ⟨"f", 900004⟩,
    ⟨"secret", 1800004⟩]

/-- The user of the witness. -/
def sampleUser : RegisterUserDto := ⟨"user@example.com", "secret", none⟩

theorem sampleUser_registered : ∃ user,
    (register sampleBcrypt sampleUser "$2b$12$").eval {} =
      (.ok user, ((register sampleBcrypt sampleUser "$2b$12$").eval {}).2) := ⟨_, rfl⟩

theorem sampleAttempts_guarded :
    Guarded sampleBcrypt sampleUser.email sampleAttempts
      { ((register sampleBcrypt sampleUser "$2b$12$").eval {}).2 with checks := [] } :=
  sampleUser_registered.elim fun _ hregistered => account_guarded hregistered (by decide)

/-- The first five passwords are checked, and the last two. -/
example : (after (attempt sampleBcrypt sampleUser.email) sampleAttempts
    ((register sampleBcrypt sampleUser "$2b$12$").eval {}).2).checks.map Entry.success =
      [true, false, false, false, false, false, false] := by
  decide +kernel

end Security

end SvmCourse
