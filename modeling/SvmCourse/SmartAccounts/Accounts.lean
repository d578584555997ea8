import Mathlib.Algebra.Order.Ring.Rat
import Mathlib.Data.Rat.Floor
import SvmCourse.Core.Number
import SvmCourse.Core.Prog
import SvmCourse.Core.Table

/-!
# Smart Accounts

Accounts with spending rules, and session keys that may act for them. Rules and
permissions are read from a cache first and from the database when the cache
does not have them, and what is read from the database is cached. What is spent
on a day is counted in the cache.

Every access to the cache, to the database and to the clock is one step. A
cached entry may be gone at any time, except the count of a day, so how long
entries are cached does not matter. A session key address may have several
rows, and which of them a lookup finds is decided outside.

The recordings are kept beside the counts, as what is counted.

## Main definitions

* `SmartAccount`, `SessionKey`: The entities.
* `World`: The clock, the tables and the cache.
* `validateTransaction`, `recordTransaction`, `handleAuthorizationRequest`:
  Authorization.
* `createSessionKey`, `validateSessionKey`, `revokeSessionKey`: Session keys.
* `Call`: A call, or what happens outside.
-/

namespace SvmCourse

namespace SmartAccounts

open Core Core.Prog

/-! ### Entities -/

/-- The statuses of an account. -/
inductive SmartAccountStatus where
  | ACTIVE | FROZEN | DISABLED
  deriving DecidableEq, Repr

/-- The statuses of a session key. -/
inductive SessionKeyStatus where
  | ACTIVE | EXPIRED | REVOKED
  deriving DecidableEq, Repr

/-- What an account may spend, and on what. -/
structure Rules where
  maxDailySpend : Option ℚ := none
  allowedPrograms : Option (List String) := none
  deriving DecidableEq

/-- A row of the accounts. -/
structure SmartAccount where
  ownerAddress : String
  smartAccountAddress : String
  rules : Rules
  status : SmartAccountStatus := .ACTIVE
  deriving DecidableEq

/-- What a session key may do. -/
structure Permissions where
  maxAmount : Option ℚ := none
  allowedPrograms : Option (List String) := none
  allowedOperations : Option (List String) := none
  timeLimit : Option ℚ := none
  deriving DecidableEq

/-- A row of the session keys. -/
structure SessionKey where
  smartAccountAddress : String
  sessionKeyAddress : String
  permissions : Permissions
  status : SessionKeyStatus := .ACTIVE
  expiresAt : Int
  deriving DecidableEq

/-- An amount that has been counted as spent by an account on a day. -/
structure Recording where
  smartAccountAddress : String
  day : Int
  amount : Int
  deriving DecidableEq

/-- Why a request is refused. -/
inductive Reason where
  | accountNotFound
  | accountNotActive
  | dailySpendLimit (limit : ℚ) (current : Option String) (attempted : Number)
  | programNotAllowed (programId : Option String)
  | sessionKeyNotFound
  | sessionKeyStatus (status : SessionKeyStatus)
  | sessionKeyExpired
  | amountExceeds (amount limit : ℚ)
  | programNotAllowedByKey (programId : String)
  | operationNotAllowed (operation : String)
  deriving DecidableEq

/-- The answer of a validation. -/
structure ValidationResult where
  valid : Bool
  reason : Option Reason := none
  deriving DecidableEq

/-- The text of a status. -/
def SessionKeyStatus.text : SessionKeyStatus → String
  | .ACTIVE => "active"
  | .EXPIRED => "expired"
  | .REVOKED => "revoked"

/-- The reason as it is answered, given how numbers are written. -/
def Reason.text (numberText : ℚ → String) : Reason → String
  | .accountNotFound => "Account not found"
  | .accountNotActive => "Account not active"
  | .dailySpendLimit limit current attempted =>
    -- The value is put into the text as Redis gave it.
    let currentSpent := current.getD "null"
    s!"Daily spend limit exceeded. Limit: {numberText limit}, Current: {currentSpent}, " ++
      s!"Attempted: {attempted.text}"
  | .programNotAllowed programId =>
    let programId := programId.getD "undefined"
    s!"Program {programId} not allowed"
  | .sessionKeyNotFound => "Session key not found"
  | .sessionKeyStatus status => s!"Session key {status.text}"
  | .sessionKeyExpired => "Session key expired"
  | .amountExceeds amount limit =>
    s!"Amount {numberText amount} exceeds session key limit {numberText limit}"
  | .programNotAllowedByKey programId => s!"Program {programId} not allowed by session key"
  | .operationNotAllowed operation => s!"Operation {operation} not allowed by session key"

/-! ### The world -/

/-- The time in milliseconds, the tables, and the cache. The id of a session key
    is its position. -/
structure World where
  now : Int
  accounts : Table SmartAccount.smartAccountAddress := .empty
  sessionKeys : List SessionKey := []
  rules : String → Option Rules := fun _ => none
  spent : String → Int → Option Int := fun _ _ => none
  permissions : String → Option Permissions := fun _ => none
  recordings : List Recording := []

/-- The day a time is on. -/
def dayOf (now : Int) : Int := now / 86400000

/-- A call of the service: accesses one after the other, or an error. -/
abbrev Service := Prog World String

/-- One access to the world. -/
def query {α : Type} (act : World → α × World) : Service α := Prog.perform "StoreError" act

/-- An access that may be answered with an error. -/
def command {α : Type} (act : World → Except String α × World) : Service α := do
  let answer ← query act
  compute answer

/-- The clock. -/
def clock : Service Int := query fun world => (world.now, world)

/-- The integers a counter can hold. -/
def isInt64 (n : Int) : Bool := -2 ^ 63 ≤ n && n < 2 ^ 63

namespace World

/-- The world with the rules of an account written, or deleted. -/
def setRules (world : World) (smartAccountAddress : String) (rules : Option Rules) : World :=
  { world with rules := Function.update world.rules smartAccountAddress rules }

/-- The world with the permissions of a key written, or deleted. -/
def setPermissions (world : World) (sessionKeyAddress : String)
    (permissions : Option Permissions) : World :=
  { world with permissions := Function.update world.permissions sessionKeyAddress permissions }

/-- Count an amount, of which the counter is told so much. -/
def count (world : World) (smartAccountAddress : String) (day amount told : Int) : World :=
  { world with
    spent := Function.update world.spent smartAccountAddress
      (Function.update (world.spent smartAccountAddress) day
        (some ((world.spent smartAccountAddress day).getD 0 + told)))
    recordings := world.recordings ++ [{ smartAccountAddress, day, amount }] }

/-- The world with the status of a key written. -/
def setSessionKey (world : World) (id : Nat) (status : SessionKeyStatus) : World :=
  { world with sessionKeys := world.sessionKeys.modify id fun key => { key with status } }

/-- The rows of the address with their ids. -/
def sessionKeysOf (world : World) (sessionKeyAddress : String) : List (SessionKey × Nat) :=
  world.sessionKeys.zipIdx.filter fun row => row.1.sessionKeyAddress = sessionKeyAddress

end World

namespace redisClient

/-- The rules of an account, as far as Redis has them. -/
def getRules (smartAccountAddress : String) : Service (Option Rules) :=
  query fun world => (world.rules smartAccountAddress, world)

/-- Write the rules of an account. -/
def setRules (smartAccountAddress : String) (rules : Rules) : Service Unit :=
  query fun world => ((), world.setRules smartAccountAddress (some rules))

/-- What an account has spent on a day, as text. -/
def getSpent (smartAccountAddress : String) (day : Int) : Service (Option String) :=
  query fun world => ((world.spent smartAccountAddress day).map toString, world)

/-- The amount is sent as a text, which has to read as an integer. -/
def counting (smartAccountAddress : String) (day : Int) (amount : Number) (world : World) :
    Except String Unit × World :=
  match amount, amount.asInteger with
  | .int n, some told =>
    if isInt64 told then
      -- Redis counts with 64 bits.
      if isInt64 ((world.spent smartAccountAddress day).getD 0 + told) then
        (.ok (), world.count smartAccountAddress day n told)
      else (.error "ERR increment or decrement would overflow", world)
    else (.error "ERR value is not an integer or out of range", world)
  | _, _ => (.error "ERR value is not an integer or out of range", world)

/-- Add to what was spent on a day. -/
def incrby (smartAccountAddress : String) (day : Int) (amount : Number) : Service Unit :=
  command (counting smartAccountAddress day amount)

/-- Counts last. -/
def expire : Service Unit := query fun world => ((), world)

/-- The permissions of a key, as far as Redis has them. -/
def getPermissions (sessionKeyAddress : String) : Service (Option Permissions) :=
  query fun world => (world.permissions sessionKeyAddress, world)

/-- A lifetime has to be a whole number of seconds, at least one. -/
def setPermissions (sessionKeyAddress : String) (permissions : Permissions) (ttl : ℚ) :
    Service Unit :=
  command fun world =>
    if ttl.den ≠ 1 then (.error "ERR value is not an integer or out of range", world)
    else if ttl ≤ 0 then (.error "ERR invalid expire time in 'set' command", world)
    else (.ok (), world.setPermissions sessionKeyAddress (some permissions))

/-- Delete the permissions of a key. -/
def delPermissions (sessionKeyAddress : String) : Service Unit :=
  query fun world => ((), world.setPermissions sessionKeyAddress none)

end redisClient

namespace smartAccountRepository

/-- The account with that address. -/
def findOne (smartAccountAddress : String) : Service (Option SmartAccount) :=
  query fun world => (world.accounts.findOne smartAccountAddress, world)

/-- The address is unique. -/
def save (account : SmartAccount) : Service Unit :=
  command fun world =>
    if (world.accounts.findOne account.smartAccountAddress).isSome then
      (.error "duplicate key value violates unique constraint", world)
    else (.ok (), { world with accounts := world.accounts.save account })

end smartAccountRepository

namespace sessionKeyRepository

/-- One of the rows of the address, if there are any. -/
def findOne (sessionKeyAddress : String) (choice : Nat) : Service (Option (SessionKey × Nat)) :=
  query fun world =>
    let rows := world.sessionKeysOf sessionKeyAddress
    (rows[choice % rows.length]?, world)

/-- Save a new key. -/
def save (key : SessionKey) : Service Unit :=
  query fun world => ((), { world with sessionKeys := world.sessionKeys ++ [key] })

/-- Write the status of a key. -/
def update (id : Nat) (status : SessionKeyStatus) : Service Unit :=
  query fun world => ((), world.setSessionKey id status)

end sessionKeyRepository

/-! ### Accounts -/

/-- Create an account and write its rules. -/
def createSmartAccount (ownerAddress : String) (rules : Rules) : Service SmartAccount := do
  let now ← clock
  let digits := (toString now).toList
  let start := String.ofList (ownerAddress.toList.take 8)
  let smartAccountAddress := s!"smart-{start}-{String.ofList (digits.drop (digits.length - 4))}"
  let account := { ownerAddress, smartAccountAddress, rules }
  smartAccountRepository.save account
  redisClient.setRules smartAccountAddress rules
  pure account

/-- A refusal, with its reason. -/
def refused (reason : Reason) : ValidationResult := { valid := false, reason := some reason }

/-- A limit of zero is no limit. -/
def checkDailySpend (smartAccountAddress : String) (rules : Rules) (amount : Number) :
    Service (Option Reason) :=
  match rules.maxDailySpend.filter (· ≠ 0) with
  | none => pure none
  | some maxDailySpend => do
    let now ← clock
    -- Read here, and raised only after the transaction is authorized.
    let currentSpent ← redisClient.getSpent smartAccountAddress (dayOf now)
    let newTotal := (Number.parseInt (currentSpent.getD "0")).add amount
    pure (if newTotal.above maxDailySpend then
      some (.dailySpendLimit maxDailySpend currentSpent amount) else none)

/-- The rules allow the program. -/
def allowsProgram (rules : Rules) (programId : Option String) : Bool :=
  rules.allowedPrograms.all fun allowedPrograms => programId.any allowedPrograms.contains

/-- Validate an amount and a program by the rules. -/
def checkRules (smartAccountAddress : String) (rules : Rules) (amount : Number)
    (programId : Option String) : Service ValidationResult := do
  match ← checkDailySpend smartAccountAddress rules amount with
  | some reason => pure (refused reason)
  | none =>
    if allowsProgram rules programId then pure { valid := true }
    else pure (refused (.programNotAllowed programId))

/-- Validate a transaction: the rules are those of Redis, or else of the row. -/
def validateTransaction (smartAccountAddress : String) (amount : Number)
    (programId : Option String) : Service ValidationResult := do
  match ← redisClient.getRules smartAccountAddress with
  -- Cached rules are taken without looking at the status of the account.
  | some rules => checkRules smartAccountAddress rules amount programId
  | none =>
    match ← smartAccountRepository.findOne smartAccountAddress with
    | none => pure (refused .accountNotFound)
    | some account =>
      if account.status ≠ .ACTIVE then pure (refused .accountNotActive)
      else do
        redisClient.setRules smartAccountAddress account.rules
        checkRules smartAccountAddress account.rules amount programId

/-- Add an amount to what was spent today, and let the counter expire. -/
def recordTransaction (smartAccountAddress : String) (amount : Number) : Service Unit := do
  let now ← clock
  redisClient.incrby smartAccountAddress (dayOf now) amount
  redisClient.expire

/-! ### Authorization -/

/-- A message, whose amount is an integer. Other fields may be missing. -/
structure AuthorizationRequest where
  transactionId : Option String := none
  smartAccountAddress : Option String := none
  amount : Int
  programId : Option String := none
  deriving DecidableEq

/-- What is emitted about a request. -/
inductive Emitted where
  | nothing
  | authorized (transactionId smartAccountAddress : String)
  | rejected (transactionId smartAccountAddress : String) (reason : Option Reason)

/-- An empty text is as good as none. -/
def given (text : Option String) : Option String := text.filter (· ≠ "")

/-- Answer a request for authorization, and record what is let through. -/
def handleAuthorizationRequest (message : AuthorizationRequest) : Service Emitted :=
  match given message.transactionId, given message.smartAccountAddress with
  | some transactionId, some smartAccountAddress => do
    let amount := Number.ofInt message.amount
    let result ← validateTransaction smartAccountAddress amount message.programId
    if result.valid then do
      -- Recording comes after the answer of the validation, and nothing holds the
      -- limit in between.
      recordTransaction smartAccountAddress amount
      pure (.authorized transactionId smartAccountAddress)
    else pure (.rejected transactionId smartAccountAddress result.reason)
  | _, _ => pure .nothing

/-! ### Session keys -/

/-- Seconds are set as a whole number. A date is within 8640000000000000
    milliseconds of the start of 1970, and none before 4714 BC is stored. -/
def expiry (now : Int) (timeLimit : Option ℚ) : Option Int :=
  let seconds := now / 1000 % 60
  let target := seconds + (timeLimit.filter (· ≠ 0)).getD 3600
  let expiresAt := now + ((if 0 ≤ target then ⌊target⌋ else ⌈target⌉) - seconds) * 1000
  if -210866803200000 ≤ expiresAt ∧ expiresAt ≤ 8640000000000000 then some expiresAt else none

/-- Create a session key of an account that is active. -/
def createSessionKey (smartAccountAddress sessionKeyAddress : String)
    (permissions : Permissions) : Service SessionKey := do
  let smartAccount ← smartAccountRepository.findOne smartAccountAddress
  require (smartAccount.any fun account => account.status = .ACTIVE)
    "Smart account not found or not active"
  let now ← clock
  let expiresAt ← demand (expiry now permissions.timeLimit)
    "invalid input syntax for type timestamp"
  let sessionKey := { smartAccountAddress, sessionKeyAddress, permissions, expiresAt }
  sessionKeyRepository.save sessionKey
  redisClient.setPermissions sessionKeyAddress permissions
    -- A limit of zero is taken for none, which is an hour.
    ((permissions.timeLimit.filter (· ≠ 0)).getD 3600)
  pure sessionKey

/-- What a session key is asked for. -/
structure SessionRequest where
  amount : Option ℚ := none
  programId : Option String := none
  operation : Option String := none
  deriving DecidableEq

/-- Limits and amounts of zero, and empty texts, are passed over. -/
def checkPermissions (permissions : Permissions) (request : SessionRequest) : Option Reason :=
  match permissions.maxAmount.filter (· ≠ 0), request.amount.filter (· ≠ 0) with
  | some maxAmount, some amount =>
    if maxAmount < amount then some (.amountExceeds amount maxAmount) else checkPrograms
  | _, _ => checkPrograms
where
  checkPrograms : Option Reason :=
    match permissions.allowedPrograms, given request.programId with
    | some allowedPrograms, some programId =>
      if allowedPrograms.contains programId then checkOperations
      else some (.programNotAllowedByKey programId)
    | _, _ => checkOperations
  checkOperations : Option Reason :=
    match permissions.allowedOperations, given request.operation with
    | some allowedOperations, some operation =>
      if allowedOperations.contains operation then none else some (.operationNotAllowed operation)
    | _, _ => none

/-- The answer for a reason, or for none. -/
def answer (reason : Option Reason) : ValidationResult :=
  match reason with
  | some reason => refused reason
  | none => { valid := true }

/-- Validate a session key: the permissions are those of Redis, or else of the row. -/
def validateSessionKey (sessionKeyAddress : String) (request : SessionRequest) (choice : Nat) :
    Service ValidationResult := do
  match ← redisClient.getPermissions sessionKeyAddress with
  -- Cached permissions are taken without looking at the row.
  | some permissions => pure (answer (checkPermissions permissions request))
  | none =>
    match ← sessionKeyRepository.findOne sessionKeyAddress choice with
    | none => pure (refused .sessionKeyNotFound)
    | some (sessionKey, id) =>
      if sessionKey.status ≠ .ACTIVE then pure (refused (.sessionKeyStatus sessionKey.status))
      else do
        -- The clock is read a second time for the lifetime of the cached permissions.
        let now ← clock
        if sessionKey.expiresAt < now then do
          sessionKeyRepository.update id .EXPIRED
          pure (refused .sessionKeyExpired)
        else do
          let now ← clock
          redisClient.setPermissions sessionKeyAddress sessionKey.permissions
            (((sessionKey.expiresAt - now) / 1000 : Int) : ℚ)
          pure (answer (checkPermissions sessionKey.permissions request))

/-- Revoke a session key: write the row, and delete its permissions. -/
def revokeSessionKey (sessionKeyAddress : String) (choice : Nat) : Service Unit := do
  let found ← sessionKeyRepository.findOne sessionKeyAddress choice
  let sessionKey ← demand found "Session key not found"
  sessionKeyRepository.update sessionKey.2 .REVOKED
  redisClient.delPermissions sessionKeyAddress

/-! ### Calls -/

/-- A call of the service or the consumer, or something that happens outside:
    the status of an account is changed, time passes, an entry drops out of the
    cache. -/
inductive Call where
  | createSmartAccount (ownerAddress : String) (rules : Rules)
  | handleAuthorizationRequest (message : AuthorizationRequest)
  | createSessionKey (smartAccountAddress sessionKeyAddress : String) (permissions : Permissions)
  | validateSessionKey (sessionKeyAddress : String) (request : SessionRequest) (choice : Nat)
  | revokeSessionKey (sessionKeyAddress : String) (choice : Nat)
  | changeStatus (smartAccountAddress : String) (status : SmartAccountStatus)
  | pass (milliseconds : Nat)
  | evictRules (smartAccountAddress : String)
  | evictPermissions (sessionKeyAddress : String)
  deriving DecidableEq

/-- Write the status of an account. -/
def changeStatus (smartAccountAddress : String) (status : SmartAccountStatus) : Service Unit :=
  query fun world => ((), { world with
    accounts := world.accounts.update
      (fun account => account.smartAccountAddress = smartAccountAddress)
      (fun account => { account with status }) fun _ => rfl })

/-- A request succeeds when it is authorized, a validation when it is answered
    with valid. -/
def Call.program : Call → Service Unit
  | .createSmartAccount ownerAddress rules =>
    discard (SmartAccounts.createSmartAccount ownerAddress rules)
  -- A rejection is an error here, so that a result says whether it was authorized.
  | .handleAuthorizationRequest message => do
    match ← SmartAccounts.handleAuthorizationRequest message with
    | .authorized _ _ => pure ()
    | .rejected _ _ _ => raise "transaction.rejected"
    | .nothing => raise "invalid authorization request message"
  | .createSessionKey smartAccountAddress sessionKeyAddress permissions =>
    discard (SmartAccounts.createSessionKey smartAccountAddress sessionKeyAddress permissions)
  | .validateSessionKey sessionKeyAddress request choice => do
    let result ← SmartAccounts.validateSessionKey sessionKeyAddress request choice
    require result.valid "not valid"
  | .revokeSessionKey sessionKeyAddress choice =>
    SmartAccounts.revokeSessionKey sessionKeyAddress choice
  | .changeStatus smartAccountAddress status =>
    SmartAccounts.changeStatus smartAccountAddress status
  | .pass milliseconds => query fun world => ((), { world with now := world.now + milliseconds })
  | .evictRules smartAccountAddress =>
    query fun world => ((), world.setRules smartAccountAddress none)
  | .evictPermissions sessionKeyAddress => redisClient.delPermissions sessionKeyAddress

/-! ### What accesses do -/

/-- Time goes on. Accounts stay, with their rules. Session keys stay, and none is
    active again. -/
structure Later (s t : World) : Prop where
  now : s.now ≤ t.now
  accounts : ∀ (address : String) (account : SmartAccount),
    s.accounts.findOne address = some account →
    ∃ account' : SmartAccount, t.accounts.findOne address = some account' ∧
      account'.rules = account.rules
  sessionKeys : ∀ (id : Nat) (key : SessionKey), s.sessionKeys[id]? = some key →
    ∃ key' : SessionKey, t.sessionKeys[id]? = some key' ∧
      key'.sessionKeyAddress = key.sessionKeyAddress ∧
      (key'.status = .ACTIVE → key.status = .ACTIVE)

theorem later_of_same {s t : World} (hnow : s.now ≤ t.now) (haccounts : t.accounts = s.accounts)
    (hkeys : t.sessionKeys = s.sessionKeys) : Later s t where
  now := hnow
  accounts _ account h := ⟨account, haccounts ▸ h, rfl⟩
  sessionKeys _ key h := ⟨key, hkeys ▸ h, rfl, id⟩

theorem later_refl (s : World) : Later s s := later_of_same (Int.le_refl _) rfl rfl

theorem later_trans {s t u : World} (hst : Later s t) (htu : Later t u) : Later s u where
  now := hst.now.trans htu.now
  accounts address account h := by
    obtain ⟨account', h', hrules⟩ := hst.accounts address account h
    obtain ⟨account'', h'', hrules'⟩ := htu.accounts address account' h'
    exact ⟨account'', h'', hrules'.trans hrules⟩
  sessionKeys id key h := by
    obtain ⟨key', h', haddress, hstatus⟩ := hst.sessionKeys id key h
    obtain ⟨key'', h'', haddress', hstatus'⟩ := htu.sessionKeys id key' h'
    exact ⟨key'', h'', haddress'.trans haddress, fun h => hstatus (hstatus' h)⟩

theorem later_setRules (s : World) (smartAccountAddress : String) (rules : Option Rules) :
    Later s (s.setRules smartAccountAddress rules) :=
  later_of_same (Int.le_refl _) rfl rfl

theorem later_setPermissions (s : World) (sessionKeyAddress : String)
    (permissions : Option Permissions) : Later s (s.setPermissions sessionKeyAddress permissions) :=
  later_of_same (Int.le_refl _) rfl rfl

theorem later_count (s : World) (smartAccountAddress : String) (day amount told : Int) :
    Later s (s.count smartAccountAddress day amount told) :=
  later_of_same (Int.le_refl _) rfl rfl

theorem later_pass (s : World) (milliseconds : Nat) :
    Later s { s with now := s.now + milliseconds } :=
  later_of_same (by simp) rfl rfl

/-- A session key that is set to another status is not active. -/
theorem later_setSessionKey (s : World) (id : Nat) {status : SessionKeyStatus}
    (h : status ≠ .ACTIVE) : Later s (s.setSessionKey id status) where
  now := Int.le_refl _
  accounts _ account h := ⟨account, h, rfl⟩
  sessionKeys i key hkey := by
    refine ⟨if id = i then { key with status } else key, ?_, ?_, fun hactive => ?_⟩
    · rw [World.setSessionKey, List.getElem?_modify, hkey]
      rfl
    · split <;> rfl
    · split at hactive
      · exact absurd hactive h
      · exact hactive

theorem later_addSessionKey (s : World) (key : SessionKey) :
    Later s { s with sessionKeys := s.sessionKeys ++ [key] } where
  now := Int.le_refl _
  accounts _ account h := ⟨account, h, rfl⟩
  sessionKeys _ key h := by
    obtain ⟨hlt, -⟩ := List.getElem?_eq_some_iff.mp h
    exact ⟨key, (List.getElem?_append_left hlt).trans h, rfl, id⟩

theorem later_addAccount {s : World} {account : SmartAccount}
    (hnew : s.accounts.findOne account.smartAccountAddress = none) :
    Later s { s with accounts := s.accounts.save account } where
  now := Int.le_refl _
  accounts address found h := by
    refine ⟨found, ?_, rfl⟩
    have hne : address ≠ account.smartAccountAddress := by
      rintro rfl
      exact nomatch hnew.symm.trans h
    exact (Table.findOne_save_of_ne hne).trans h
  sessionKeys _ key h := ⟨key, h, rfl, id⟩

theorem findOne_changeStatus (s : World) (smartAccountAddress address : String)
    (status : SmartAccountStatus) :
    (s.accounts.update (fun account => account.smartAccountAddress = smartAccountAddress)
      (fun account => { account with status }) fun _ => rfl).findOne address =
      (s.accounts.findOne address).map fun account =>
        if account.smartAccountAddress = smartAccountAddress then { account with status }
        else account := by
  rw [Table.findOne_update]
  congr 1
  funext account
  by_cases h : account.smartAccountAddress = smartAccountAddress <;> simp [h]

theorem later_changeStatus (s : World) (smartAccountAddress : String)
    (status : SmartAccountStatus) :
    Later s { s with
      accounts := s.accounts.update
        (fun account => account.smartAccountAddress = smartAccountAddress)
        (fun account => { account with status }) fun _ => rfl } where
  now := Int.le_refl _
  accounts address account h := by
    refine ⟨_, (findOne_changeStatus ..).trans (by rw [h]; rfl), ?_⟩
    dsimp only
    split <;> rfl
  sessionKeys _ key h := ⟨key, h, rfl, id⟩

end SmartAccounts

end SvmCourse
