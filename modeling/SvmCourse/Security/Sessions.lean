import SvmCourse.Security.Credentials
import SvmCourse.Security.Lockout

/-!
# Sessions

Registering or logging in hands out a token, and a token is asked for wherever keys
are created, listed or taken back. The token says who its user is. Nothing is kept of
it, so it is good until it expires: there is no way to take it back, a lock keeps
nobody out who has one, and the role that an endpoint asks for is not looked at.

The token is signed with a secret that is read from the environment, and read with
one that the configuration has. Only who knows the secret can make one, so a token
that can be read has been handed out. The calls come one after another, and the clock
is read once for each.

## Main definitions

* `Jwt`: Signing and reading tokens.
* `validateToken`: Who is let in with a token.
* `Call`, `step`: The endpoints as a machine.
* `registrations`, `sessions`, `grants`: What was answered before.
* `Grounded`: An answer that has its ground in the answers before it.

## Theorems

* `linked_step`: The tables say what the answers say.
* `entered_iff`: A token lets its user in until it expires.
* `grounded_run`: Every answer has its ground in the answers before it.
-/

namespace SvmCourse

namespace Security

namespace Sessions

open Core Core.Prog Core.Machine Credentials

/-! ### Tokens -/

/-- What a token says. -/
structure JwtPayload where
  sub : Nat
  email : String
  role : UserRole

/-- Signing with a secret at a time and for a time, and reading with a secret. All
    times are in seconds. -/
structure Jwt (Token : Type) where
  sign : String → JwtPayload → Int → Int → Token
  verify : String → Token → Int → Option JwtPayload

variable {Token : Type}

/-- What was signed is read with the same secret until it expires. -/
def Jwt.Sound (jwt : Jwt Token) : Prop :=
  ∀ secret payload issuedAt expiresIn now,
    jwt.verify secret (jwt.sign secret payload issuedAt expiresIn) now =
      if now < issuedAt + expiresIn then some payload else none

/-- The settings that tokens depend on. -/
structure Env where
  jwtSecret : Option String := none
  configSecret : Option String := none
  expiresIn : Int := 24 * 60 * 60

/-- An empty text is no secret in the environment. -/
def Env.signSecret (env : Env) : String :=
  (env.jwtSecret.filter (· ≠ "")).getD "default-secret-key"

/-- The secret that tokens are checked with. -/
def Env.verifySecret (env : Env) : String := env.configSecret.getD "default-secret-key"

/-- The seconds of an instant in milliseconds. -/
def seconds (now : Int) : Int := now / 1000

/-! ### The endpoints -/

section

variable (bcrypt : Bcrypt) (jwt : Jwt Token) (env : Env)

/-- The token of a user. -/
def generateJwtToken (id : Nat) (user : User) (now : Int) : Token :=
  jwt.sign env.signSecret { sub := id, email := user.email, role := user.role } (seconds now)
    env.expiresIn

/-- A user, its id and its token. -/
structure Signed (Token : Type) where
  id : Nat
  user : User
  token : Token

/-- The new row is the last one. -/
def registerUser (dto : RegisterUserDto) (salt : String) (now : Int) : Service (Signed Token) := do
  let savedUser ← register bcrypt dto salt
  let id ← query fun world => (world.users.length - 1, world)
  pure { id, user := savedUser, token := generateJwtToken jwt env id savedUser now }

/-- The row that is found here is the one that the login finds. -/
def loginUser (dto : LoginUserDto) (now : Int) : Service (Signed Token) := do
  let found ← userRepository.findOne dto.email
  let user ← login bcrypt dto now
  let row ← demand found "Invalid credentials"
  pure { id := row.2, user, token := generateJwtToken jwt env row.2 user now }

/-- Without a token, or with one that cannot be read, nobody is let in. -/
def validateToken (token : Option Token) (now : Int) : Service Identity := do
  let payload ← demand (token.bind fun token => jwt.verify env.verifySecret token (seconds now))
    "Invalid or missing JWT token"
  let found ← query fun world => (world.users[payload.sub]?, world)
  let user ← demand found "User not found"
  require (user.status = .ACTIVE) "User account is not active"
  pure { id := payload.sub, email := user.email, role := user.role }

/-- The latest first. -/
def getUserApiKeys (userId : Nat) : Service (List (Nat × ApiKey)) :=
  query fun world => (((world.apiKeys.zipIdx.filter fun row => row.1.userId = userId).map
    fun row => (row.2, row.1)).reverse, world)

/-- What a token is asked for. -/
inductive Action where
  | createApiKey (dto : CreateApiKeyDto) (randomBytes : Vector UInt8 32) (salt : String)
  | getApiKeys
  | revokeApiKey (apiKeyId : Nat)
  | getProfile
  | getAllUsers

/-- The calls of a run. -/
inductive Call (Token : Type) where
  | register (dto : RegisterUserDto) (salt : String) (now : Int)
  | login (dto : LoginUserDto) (now : Int)
  | guarded (token : Option Token) (now : Int) (action : Action)
  | request (headers : Headers) (order : Nat → Nat) (clock : Nat → Int)

/-- What a call answers. -/
inductive Answer (Token : Type) where
  | signed (signed : Signed Token)
  | key (id : Nat) (plainKey : String)
  | keys (rows : List (Nat × ApiKey))
  | message (text : String)
  | identity (identity : Identity)

/-- Nobody looks at the role, also where it is asked for. -/
def perform (user : Identity) : Action → Service (Answer Token)
  | .createApiKey dto randomBytes salt => do
    let created ← createApiKey bcrypt user.id dto randomBytes salt
    return .key created.1 created.2
  | .getApiKeys => do return .keys (← getUserApiKeys user.id)
  | .revokeApiKey apiKeyId => do
    revokeApiKey user.id apiKeyId
    return .message "API key revoked successfully"
  | .getProfile => pure (.identity user)
  | .getAllUsers => pure (.message "Admin endpoint - list all users")

/-- Who was let in is answered with a call that a token is asked for. -/
def answer : Call Token → Service (Option Identity × Answer Token)
  | .register dto salt now => do
    return (none, .signed (← registerUser bcrypt jwt env dto salt now))
  | .login dto now => do return (none, .signed (← loginUser bcrypt jwt env dto now))
  | .guarded token now action => do
    let user ← validateToken jwt env token now
    return (some user, ← perform bcrypt user action)
  | .request headers order clock => do
    let user ← validate bcrypt headers order clock
    return (some user, .identity user)

/-! ### What was answered -/

/-- A call, who was let in, and what it answered. -/
abbrev Entry (Token : Type) := Call Token × Except String (Option Identity × Answer Token)

/-- The users, with the salts of their passwords. -/
def registrations (history : List (Entry Token)) : List (RegisterUserDto × String) :=
  history.filterMap fun
    | (.register dto salt _, .ok _) => some (dto, salt)
    | _ => none

/-- A token that was handed out. -/
structure Session (Token : Type) where
  userId : Nat
  token : Token
  issuedAt : Int

/-- The sessions of a history. -/
def sessions (history : List (Entry Token)) : List (Session Token) :=
  history.filterMap fun
    | (.register _ _ now, .ok (_, .signed signed)) => some ⟨signed.id, signed.token, seconds now⟩
    | (.login _ now, .ok (_, .signed signed)) => some ⟨signed.id, signed.token, seconds now⟩
    | _ => none

/-- What an answer makes of the keys that were handed out. -/
def grant (grants : List Grant) : Entry Token → List Grant
  | (.guarded _ _ (.createApiKey dto _ _), .ok (some user, .key _ plainKey)) =>
    grants ++ [⟨user.id, plainKey, dto.expiresAt.join, false⟩]
  | (.guarded _ _ (.revokeApiKey apiKeyId), .ok _) => grants.modify apiKeyId Grant.revoke
  | _ => grants

/-- What was granted in a history. -/
def grants (history : List (Entry Token)) : List Grant := history.foldl grant []

/-- Everything that was answered, and the tables. -/
structure Log (Token : Type) where
  history : List (Entry Token) := []
  world : World := {}

/-- One call on the tables, which is added to the history. -/
def step (log : Log Token) (call : Call Token) :
    Except String (Option Identity × Answer Token) × Log Token :=
  let result := (answer bcrypt jwt env call).eval log.world
  (result.1, { history := log.history ++ [(call, result.1)], world := result.2 })

end

section

variable {bcrypt : Bcrypt} {jwt : Jwt Token} {env : Env}

/-- Somebody who has registered. -/
def Is (history : List (Entry Token)) (identity : Identity) : Prop :=
  ∃ dto salt, (registrations history)[identity.id]? = some (dto, salt) ∧
    identity.email = dto.email ∧ identity.role = dto.role.getD .USER

/-- A token was handed out to somebody and has not expired. -/
def Entitled (env : Env) (history : List (Entry Token)) (token : Token) (now : Int)
    (identity : Identity) : Prop :=
  Is history identity ∧ ∃ session ∈ sessions history, session.token = token ∧
    session.userId = identity.id ∧ seconds now < session.issuedAt + env.expiresIn

/-- A token that can be read was handed out. -/
def Unforged (jwt : Jwt Token) (env : Env) (history : List (Entry Token)) (token : Token)
    (now : Int) : Prop :=
  jwt.verify env.verifySecret token (seconds now) ≠ none →
    ∃ session ∈ sessions history, session.token = token

/-- No token of a call was made by somebody else. -/
def Honest (jwt : Jwt Token) (env : Env) (history : List (Entry Token)) : Call Token → Prop
  | .guarded (some token) now _ => Unforged jwt env history token now
  | _ => True

/-- What is done for somebody is done to keys of their own. -/
def OwnKeys (grants : List Grant) (userId : Nat) : Action → Answer Token → Prop
  | .revokeApiKey apiKeyId, _ => ∃ g, grants[apiKeyId]? = some g ∧ g.userId = userId
  | .getApiKeys, .keys rows =>
    ∀ id, id ∈ rows.map Prod.fst ↔ ∃ g, grants[id]? = some g ∧ g.userId = userId
  | _, _ => True

/-- An answer has its ground in the answers before it. -/
def Grounded (bcrypt : Bcrypt) (env : Env) (history : List (Entry Token)) :
    Entry Token → Prop
  | (.register dto _ _, .ok (_, .signed signed)) =>
    -- The email is new, and so is the id.
    signed.id = (registrations history).length ∧
      ∀ registration ∈ registrations history, registration.1.email ≠ dto.email
  | (.login dto _, .ok (_, .signed signed)) =>
    ∃ dto' salt, (registrations history)[signed.id]? = some (dto', salt) ∧
      dto'.email = dto.email ∧
      bcrypt.compare dto.password (bcrypt.hash dto'.password saltRounds salt) = true
  | (.guarded token now action, .ok (user, result)) =>
    ∃ identity text, user = some identity ∧ token = some text ∧
      Entitled env history text now identity ∧ OwnKeys (grants history) identity.id action result
  | (.request headers _ clock, .ok (user, _)) =>
    ∃ identity apiKey id, ∃ g : Grant, user = some identity ∧ headers.apiKey = some apiKey ∧
      (grants history)[id]? = some g ∧ g.opens apiKey (clock id) ∧ g.userId = identity.id ∧
      Is history identity
  | _ => True

/-! ### The tables -/

/-- What never changes of a user. -/
def account (user : User) : String × String × UserRole × UserStatus :=
  (user.email, user.passwordHash, user.role, user.status)

/-- The account that a registration opens. -/
def accountOf (bcrypt : Bcrypt) (registration : RegisterUserDto × String) :
    String × String × UserRole × UserStatus :=
  (registration.1.email, bcrypt.hash registration.1.password saltRounds registration.2,
    registration.1.role.getD .USER, .ACTIVE)

/-- The users are those that have registered, and the tokens say who they are. -/
structure Linked (bcrypt : Bcrypt) (jwt : Jwt Token) (env : Env) (log : Log Token) : Prop where
  accounts : log.world.users.map account = (registrations log.history).map (accountOf bcrypt)
  tokens : ∀ session ∈ sessions log.history, ∃ dto salt,
    (registrations log.history)[session.userId]? = some (dto, salt) ∧
      session.token = jwt.sign env.signSecret ⟨session.userId, dto.email, dto.role.getD .USER⟩
        session.issuedAt env.expiresIn

variable {log : Log Token}

/-- A user is one that has registered. -/
theorem Linked.registered (h : Linked bcrypt jwt env log) {id : Nat} {user : User}
    (huser : log.world.users[id]? = some user) :
    ∃ dto salt, (registrations log.history)[id]? = some (dto, salt) ∧
      account user = accountOf bcrypt (dto, salt) := by
  have hget := congrArg (fun rows => rows[id]?) h.accounts
  rw [List.getElem?_map, List.getElem?_map, huser, Option.map_some] at hget
  rcases Option.map_eq_some_iff.mp hget.symm with ⟨⟨dto, salt⟩, hregistration, haccount⟩
  exact ⟨dto, salt, hregistration, haccount.symm⟩

/-- Who has registered is a user. -/
theorem Linked.user (h : Linked bcrypt jwt env log) {id : Nat} {dto : RegisterUserDto}
    {salt : String} (hregistration : (registrations log.history)[id]? = some (dto, salt)) :
    ∃ user, log.world.users[id]? = some user ∧ account user = accountOf bcrypt (dto, salt) := by
  have hget := congrArg (fun rows => rows[id]?) h.accounts
  rw [List.getElem?_map, List.getElem?_map, hregistration, Option.map_some] at hget
  exact Option.map_eq_some_iff.mp hget

/-- Saving a user changes nothing of the account. -/
theorem accounts_set {users : List User} {id : Nat} {user user' : User}
    (huser : users[id]? = some user) (hsame : account user' = account user) :
    (users.set id user').map account = users.map account := by
  refine List.ext_getElem? fun i => ?_
  rw [List.getElem?_map, List.getElem?_map, List.getElem?_set]
  split
  · next heq =>
      subst heq
      rw [huser, if_pos (List.getElem?_eq_some_iff.mp huser).1, Option.map_some, Option.map_some,
        hsame]
  · rfl

/-! ### Calls -/

variable {world : World}

/-- The row of a new user. -/
def newUser (bcrypt : Bcrypt) (dto : RegisterUserDto) (salt : String) : User where
  email := dto.email
  passwordHash := bcrypt.hash dto.password saltRounds salt
  role := dto.role.getD .USER

/-- A user is added with an email that is new, or nothing happens. -/
theorem registerUser_cases (dto : RegisterUserDto) (salt : String) (now : Int) :
    (∃ e, (registerUser bcrypt jwt env dto salt now).eval world = (.error e, world)) ∨
    (world.userOf dto.email = none ∧
      (registerUser bcrypt jwt env dto salt now).eval world =
        (.ok ⟨world.users.length, newUser bcrypt dto salt,
            generateJwtToken jwt env world.users.length (newUser bcrypt dto salt) now⟩,
          { world with users := world.users ++ [newUser bcrypt dto salt] })) := by
  cases hexisting : world.userOf dto.email with
  | some row =>
      have hfind : (userRepository.findOne dto.email).eval world = (.ok (some row), world) :=
        congrArg (fun found => (Except.ok found, world)) hexisting
      have hrefused : (register bcrypt dto salt).eval world = (.error _, world) :=
        eval_bind_ok hfind
      exact Or.inl ⟨_, eval_bind_error hrefused⟩
  | none =>
      have hfind : (userRepository.findOne dto.email).eval world = (.ok none, world) :=
        congrArg (fun found => (Except.ok found, world)) hexisting
      have hregistered : (register bcrypt dto salt).eval world = (.ok (newUser bcrypt dto salt),
          { world with users := world.users ++ [newUser bcrypt dto salt] }) := eval_bind_ok hfind
      refine Or.inr ⟨rfl, (eval_bind_ok hregistered).trans ?_⟩
      -- The position of the last row is the number of rows before.
      have hlast : (world.users ++ [newUser bcrypt dto salt]).length - 1 = world.users.length := by
        rw [List.length_append, List.length_singleton, Nat.add_sub_cancel]
      have hid : (query fun world : World => (world.users.length - 1, world)).eval
          { world with users := world.users ++ [newUser bcrypt dto salt] } =
            (.ok world.users.length, _) :=
        congrArg (fun id => (Except.ok id, _)) hlast
      exact eval_bind_ok hid

/-- The same accounts and keys. -/
def Same (world world' : World) : Prop :=
  world'.users.map account = world.users.map account ∧ world'.apiKeys = world.apiKeys

/-- With the right password the user is handed a token, and otherwise nothing changes
    but what is counted. -/
theorem loginUser_cases (dto : LoginUserDto) (now : Int) :
    ∃ world', Same world world' ∧
      ((∃ e, (loginUser bcrypt jwt env dto now).eval world = (.error e, world')) ∨
      ∃ user user' id, world.userOf dto.email = some (user, id) ∧
        bcrypt.compare dto.password user.passwordHash = true ∧ account user' = account user ∧
        (loginUser bcrypt jwt env dto now).eval world =
          (.ok ⟨id, user', generateJwtToken jwt env id user' now⟩, world')) := by
  cases hfound : world.userOf dto.email with
  | none =>
      -- Nobody is registered under this address.
      have hfind : (userRepository.findOne dto.email).eval world = (.ok none, world) :=
        congrArg (fun found => (Except.ok found, world)) hfound
      have hrefused : (login bcrypt dto now).eval world = (.error _, world) := eval_bind_ok hfind
      exact ⟨world, ⟨rfl, rfl⟩,
        Or.inl ⟨_, (eval_bind_ok hfind).trans (eval_bind_error hrefused)⟩⟩
  | some row =>
      rcases row with ⟨user, id⟩
      have hfind : (userRepository.findOne dto.email).eval world = (.ok (some (user, id)), world) :=
        congrArg (fun found => (Except.ok found, world)) hfound
      have huser := (userOf_eq_some.mp hfound).2
      -- The account is locked, or the password is right, or it is wrong.
      rcases attempt_cases bcrypt hfound ⟨dto.password, now⟩ with
        ⟨-, hrefused⟩ | ⟨-, hmatch, hok⟩ | ⟨-, -, hrefused⟩
      · have hlogin : (login bcrypt dto now).eval world = (.error _, world) := hrefused
        exact ⟨world, ⟨rfl, rfl⟩,
          Or.inl ⟨_, (eval_bind_ok hfind).trans (eval_bind_error hlogin)⟩⟩
      · have hlogin : (login bcrypt dto now).eval world = (.ok (user.succeeded now),
          world.checked id (user.succeeded now) ⟨now, true⟩) := hok
        exact ⟨world.checked id (user.succeeded now) ⟨now, true⟩, ⟨accounts_set huser rfl, rfl⟩,
          Or.inr ⟨user, user.succeeded now, id, rfl, hmatch, rfl,
            (eval_bind_ok hfind).trans (eval_bind_ok hlogin)⟩⟩
      · have hlogin : (login bcrypt dto now).eval world = (.error _,
          world.checked id (user.failed now) ⟨now, false⟩) := hrefused
        exact ⟨world.checked id (user.failed now) ⟨now, false⟩, ⟨accounts_set huser rfl, rfl⟩,
          Or.inl ⟨_, (eval_bind_ok hfind).trans (eval_bind_error hlogin)⟩⟩

/-- A token that can be read lets its user in. -/
theorem validateToken_ok {token : Option Token} {now : Int} {payload : JwtPayload} {user : User}
    (hread : (token.bind fun text => jwt.verify env.verifySecret text (seconds now)) =
      some payload)
    (huser : world.users[payload.sub]? = some user) (hactive : user.status = .ACTIVE) :
    (validateToken jwt env token now).eval world =
      (.ok ⟨payload.sub, user.email, user.role⟩, world) := by
  have hfind : (query fun world => (world.users[payload.sub]?, world)).eval world =
      (.ok (some user), world) := congrArg (fun found => (Except.ok found, world)) huser
  have hdemand : (demand (some user) "User not found" : Service User).eval world =
      (.ok user, world) := rfl
  have hpass : (require (user.status = .ACTIVE) "User account is not active" :
      Service Unit).eval world = (.ok (), world) := by
    rw [decide_eq_true hactive]
    rfl
  unfold validateToken
  rw [hread]
  exact (eval_bind_ok hfind).trans ((eval_bind_ok hdemand).trans (eval_bind_ok hpass))

/-- Somebody is let in with a token that can be read, or nobody is. -/
theorem validateToken_cases (token : Option Token) (now : Int) :
    (∃ e, (validateToken jwt env token now).eval world = (.error e, world)) ∨
    ∃ text payload user, token = some text ∧
      jwt.verify env.verifySecret text (seconds now) = some payload ∧
      world.users[payload.sub]? = some user ∧
      (validateToken jwt env token now).eval world =
        (.ok ⟨payload.sub, user.email, user.role⟩, world) := by
  cases hread : token.bind fun text => jwt.verify env.verifySecret text (seconds now) with
  | none =>
      -- The token is missing or cannot be read.
      refine Or.inl ⟨"Invalid or missing JWT token", ?_⟩
      unfold validateToken
      rw [hread]
      rfl
  | some payload =>
      rcases Option.bind_eq_some_iff.mp hread with ⟨text, htext, hpayload⟩
      cases huser : world.users[payload.sub]? with
      | none =>
          have hfind : (query fun world => (world.users[payload.sub]?, world)).eval world =
              (.ok none, world) := congrArg (fun found => (Except.ok found, world)) huser
          refine Or.inl ⟨"User not found", ?_⟩
          unfold validateToken
          rw [hread]
          exact eval_bind_ok hfind
      | some user =>
          -- Whom it names must be there, and active.
          by_cases hactive : user.status = .ACTIVE
          · exact Or.inr ⟨text, payload, user, htext, hpayload, huser,
              validateToken_ok hread huser hactive⟩
          · have hfind : (query fun world => (world.users[payload.sub]?, world)).eval world =
                (.ok (some user), world) := congrArg (fun found => (Except.ok found, world)) huser
            have hdemand : (demand (some user) "User not found" : Service User).eval world =
                (.ok user, world) := rfl
            have hstop : (require (user.status = .ACTIVE) "User account is not active" :
                Service Unit).eval world = (.error "User account is not active", world) := by
              rw [decide_eq_false hactive]
              rfl
            refine Or.inl ⟨"User account is not active", ?_⟩
            unfold validateToken
            rw [hread]
            exact (eval_bind_ok hfind).trans
              ((eval_bind_ok hdemand).trans (eval_bind_error hstop))

/-- What is done for somebody leaves the users as they are. -/
theorem perform_users (user : Identity) (action : Action) :
    ((perform bcrypt user action : Service (Answer Token)).eval world).2.users = world.users := by
  -- The actions write keys at most.
  cases action with
  | createApiKey dto randomBytes salt =>
      rcases @createApiKey_cases bcrypt world user.id dto randomBytes salt with ⟨e, he⟩ | ⟨-, hok⟩
      · rw [perform, bind_eq, eval_bind_error he]
      · rw [perform, bind_eq, eval_bind_ok hok]
        rfl
  | getApiKeys => rfl
  | revokeApiKey apiKeyId =>
      rcases @revokeApiKey_cases world user.id apiKeyId with ⟨e, he⟩ | ⟨key, -, hok⟩
      · rw [perform, bind_eq, eval_bind_error he]
      · rw [perform, bind_eq, eval_bind_ok hok]
        rfl
  | getProfile => rfl
  | getAllUsers => rfl

/-- Looking for a key writes keys only. -/
theorem validateKeys_users (users : List User) (apiKey : String) (clock : Nat → Int)
    (rows : List (ApiKey × Nat)) :
    (validateKeys bcrypt apiKey clock rows).Upholds (fun s => s.users = users) fun _ => True := by
  induction rows with
  | nil => exact trivial
  | cons row rows ih =>
      unfold validateKeys
      split
      · exact upholds_bind (R := fun _ => True) (upholds_perform fun s hs => ⟨hs, trivial⟩)
          fun _ _ => trivial
      · exact ih

/-- A request leaves the users as they are. -/
theorem validate_users (headers : Headers) (order : Nat → Nat) (clock : Nat → Int) :
    ((validate bcrypt headers order clock).eval world).2.users = world.users := by
  have hupholds : (validate bcrypt headers order clock).Upholds
      (fun s => s.users = world.users) fun _ => True := by
    refine upholds_bind (R := fun _ => True) (upholds_demand fun _ _ => trivial) fun apiKey _ => ?_
    refine upholds_bind (R := fun _ => True) ?_ fun found _ => ?_
    · exact upholds_bind (R := fun _ => True) (upholds_perform fun s hs => ⟨hs, trivial⟩)
        fun rows _ => validateKeys_users world.users apiKey clock rows
    · refine upholds_bind (R := fun _ => True) (upholds_demand fun _ _ => trivial) fun key _ => ?_
      refine upholds_bind (R := fun _ => True) (upholds_perform fun s hs => ⟨hs, trivial⟩)
        fun user _ => ?_
      exact upholds_bind (R := fun _ => True) (upholds_demand fun _ _ => trivial)
        fun _ _ => trivial
  exact ((ensures_false_iff _ _ _).mp (ensures_of_upholds hupholds rfl)).1

/-! ### Runs -/

theorem registrations_append (history : List (Entry Token)) (entry : Entry Token) :
    registrations (history ++ [entry]) = registrations history ++ registrations [entry] :=
  List.filterMap_append

theorem sessions_append (history : List (Entry Token)) (entry : Entry Token) :
    sessions (history ++ [entry]) = sessions history ++ sessions [entry] :=
  List.filterMap_append

/-- Who has registered has registered later, too. -/
theorem registration_later {history : List (Entry Token)} {id : Nat}
    {registration : RegisterUserDto × String}
    (h : (registrations history)[id]? = some registration) (entry : Entry Token) :
    (registrations (history ++ [entry]))[id]? = some registration := by
  have hlt := (List.getElem?_eq_some_iff.mp h).1
  rw [registrations_append, List.getElem?_append_left hlt]
  exact h

/-- An answer that says the same as the tables it leaves. -/
theorem linked_append (h : Linked bcrypt jwt env log) {entry : Entry Token} {world' : World}
    (haccounts : world'.users.map account =
      log.world.users.map account ++ (registrations [entry]).map (accountOf bcrypt))
    (htokens : ∀ session ∈ sessions [entry], ∃ dto salt,
      (registrations (log.history ++ [entry]))[session.userId]? = some (dto, salt) ∧
        session.token = jwt.sign env.signSecret ⟨session.userId, dto.email, dto.role.getD .USER⟩
          session.issuedAt env.expiresIn) :
    Linked bcrypt jwt env { history := log.history ++ [entry], world := world' } := by
  refine ⟨?_, fun session hsession => ?_⟩
  · rw [haccounts, h.accounts, registrations_append, List.map_append]
  · rw [sessions_append] at hsession
    rcases List.mem_append.mp hsession with hold | hnew
    · rcases h.tokens session hold with ⟨dto, salt, hregistration, htoken⟩
      exact ⟨dto, salt, registration_later hregistration entry, htoken⟩
    · exact htokens session hnew

/-- An answer that hands out nothing. -/
theorem linked_kept (h : Linked bcrypt jwt env log) {entry : Entry Token} {world' : World}
    (haccounts : world'.users.map account = log.world.users.map account)
    (hregistrations : registrations [entry] = []) (hsessions : sessions [entry] = []) :
    Linked bcrypt jwt env { history := log.history ++ [entry], world := world' } := by
  refine linked_append h ?_ fun session hsession => ?_
  · rw [haccounts, hregistrations, List.map_nil, List.append_nil]
  · rw [hsessions] at hsession
    cases hsession

/-- The tables say what the answers say, whatever is called. -/
theorem linked_step (h : Linked bcrypt jwt env log) (call : Call Token) :
    Linked bcrypt jwt env (step bcrypt jwt env log call).2 := by
  unfold step
  cases call with
  | register dto salt now =>
      rcases @registerUser_cases Token bcrypt jwt env log.world dto salt now with
        ⟨e, he⟩ | ⟨-, hok⟩
      · rw [answer, bind_eq, eval_bind_error he]
        exact linked_kept h rfl rfl rfl
      · rw [answer, bind_eq, eval_bind_ok hok]
        refine linked_append h ?_ fun session hsession => ?_
        · exact List.map_append
        · rw [List.mem_singleton.mp hsession]
          refine ⟨dto, salt, ?_, rfl⟩
          -- There are as many users as have registered.
          have hlength := congrArg List.length h.accounts
          rw [List.length_map, List.length_map] at hlength
          rw [registrations_append]
          dsimp only
          rw [hlength]
          exact List.getElem?_concat_length
  | login dto now =>
      rcases @loginUser_cases Token bcrypt jwt env log.world dto now with
        ⟨world', hsame, ⟨e, he⟩ | ⟨user, user', id, hfound, -, haccount, hok⟩⟩
      · rw [answer, bind_eq, eval_bind_error he]
        exact linked_kept h hsame.1 rfl rfl
      · rw [answer, bind_eq, eval_bind_ok hok]
        refine linked_append h ?_ fun session hsession => ?_
        · exact hsame.1.trans (List.append_nil _).symm
        · rw [List.mem_singleton.mp hsession]
          rcases h.registered (userOf_eq_some.mp hfound).2 with
            ⟨dto', salt, hregistration, hsigned⟩
          refine ⟨dto', salt, registration_later hregistration _, ?_⟩
          have hboth := haccount.trans hsigned
          have hemail : user'.email = dto'.email := congrArg Prod.fst hboth
          have hrole : user'.role = dto'.role.getD .USER :=
            congrArg (fun a : String × String × UserRole × UserStatus => a.2.2.1) hboth
          rw [← hemail, ← hrole]
          rfl
  | guarded token now action =>
      rcases @validateToken_cases Token jwt env log.world token now with
        ⟨e, he⟩ | ⟨text, payload, user, -, -, -, hok⟩
      · rw [answer, bind_eq, eval_bind_error he]
        exact linked_kept h rfl rfl rfl
      · rw [answer, bind_eq, eval_bind_ok hok, bind_eq]
        have husers := @perform_users Token bcrypt log.world
          ⟨payload.sub, user.email, user.role⟩ action
        rcases hresult : (perform bcrypt ⟨payload.sub, user.email, user.role⟩ action :
          Service (Answer Token)).eval log.world with ⟨result, world'⟩
        rw [hresult] at husers
        cases result with
        | error e =>
            rw [eval_bind_error hresult]
            exact linked_kept h (congrArg (List.map account) husers) rfl rfl
        | ok result =>
            rw [eval_bind_ok hresult]
            exact linked_kept h (congrArg (List.map account) husers) rfl rfl
  | request headers order clock =>
      have husers := @validate_users bcrypt log.world headers order clock
      rcases hresult : (validate bcrypt headers order clock).eval log.world with ⟨result, world'⟩
      rw [hresult] at husers
      cases result with
      | error e =>
          rw [answer, bind_eq, eval_bind_error hresult]
          exact linked_kept h (congrArg (List.map account) husers) rfl rfl
      | ok user =>
          rw [answer, bind_eq, eval_bind_ok hresult]
          exact linked_kept h (congrArg (List.map account) husers) rfl rfl

theorem grants_append (history : List (Entry Token)) (entry : Entry Token) :
    grants (history ++ [entry]) = grant (grants history) entry := List.foldl_append

theorem grant_error (gs : List Grant) (call : Call Token) (e : String) :
    grant gs (call, .error e) = gs := by
  cases call with
  | guarded token now action => cases action <;> rfl
  | register dto salt now => rfl
  | login dto now => rfl
  | request headers order clock => rfl

variable {gs : List Grant}

/-- What is done for somebody is in the table of keys as it is in the answer. -/
theorem perform_backed (hbcrypt : Sound bcrypt) (h : Backed bcrypt world gs) (token : Option Token)
    (now : Int) (user : Identity) (action : Action) :
    Backed bcrypt ((perform bcrypt user action : Service (Answer Token)).eval world).2
      (grant gs (.guarded token now action,
        ((perform bcrypt user action : Service (Answer Token)).eval world).1.map
          fun result => (some user, result))) := by
  -- Only two actions touch the table of keys, and each does what the grants say.
  cases action with
  | createApiKey dto randomBytes salt =>
      rcases @createApiKey_cases bcrypt world user.id dto randomBytes salt with
        ⟨e, he⟩ | ⟨huser, hok⟩
      · rw [perform, bind_eq, eval_bind_error he]
        exact h
      · rw [perform, bind_eq, eval_bind_ok hok]
        exact backed_insert h ⟨rfl, hbcrypt randomBytes salt, rfl, by simp, rfl⟩ huser
  | getApiKeys => exact h
  | revokeApiKey apiKeyId =>
      rcases @revokeApiKey_cases world user.id apiKeyId with ⟨e, he⟩ | ⟨key, hkey, hok⟩
      · rw [perform, bind_eq, eval_bind_error he]
        exact h
      · rw [perform, bind_eq, eval_bind_ok hok]
        exact backed_setApiKey h hkey { key with status := .REVOKED } rfl Grant.revoke
          fun _ => fits_revoke
  | getProfile => exact h
  | getAllUsers => exact h

theorem backed_same (h : Backed bcrypt world gs) {world' : World} (hsame : Same world world') :
    Backed bcrypt world' gs := by
  have hlength := congrArg List.length hsame.1
  rw [List.length_map, List.length_map] at hlength
  exact backed_kept h ⟨hsame.2, hlength.ge⟩

/-- The table of keys says what the answers say, whatever is called. -/
theorem keys_step (hbcrypt : Sound bcrypt) (h : Backed bcrypt log.world (grants log.history))
    (call : Call Token) :
    Backed bcrypt (step bcrypt jwt env log call).2.world
      (grants (step bcrypt jwt env log call).2.history) := by
  unfold step
  rw [grants_append]
  cases call with
  | register dto salt now =>
      -- A registration adds a user, and leaves the keys alone.
      rcases @registerUser_cases Token bcrypt jwt env log.world dto salt now with
        ⟨e, he⟩ | ⟨-, hok⟩
      · rw [answer, bind_eq, eval_bind_error he]
        exact h
      · rw [answer, bind_eq, eval_bind_ok hok]
        refine backed_kept h ⟨rfl, ?_⟩
        dsimp only [eval_done, pure_eq]
        rw [List.length_append]
        exact Nat.le_add_right _ _
  | login dto now =>
      -- So does a login.
      rcases @loginUser_cases Token bcrypt jwt env log.world dto now with
        ⟨world', hsame, ⟨e, he⟩ | ⟨user, user', id, -, -, -, hok⟩⟩
      · rw [answer, bind_eq, eval_bind_error he]
        exact backed_same h hsame
      · rw [answer, bind_eq, eval_bind_ok hok]
        exact backed_same h hsame
  | guarded token now action =>
      rcases @validateToken_cases Token jwt env log.world token now with
        ⟨e, he⟩ | ⟨text, payload, user, -, -, -, hok⟩
      · rw [answer, bind_eq, eval_bind_error he]
        rw [grant_error]
        exact h
      · rw [answer, bind_eq, eval_bind_ok hok, bind_eq]
        have hbacked := perform_backed hbcrypt h token now
          ⟨payload.sub, user.email, user.role⟩ action
        rcases hresult : (perform bcrypt ⟨payload.sub, user.email, user.role⟩ action :
          Service (Answer Token)).eval log.world with ⟨result, world'⟩
        rw [hresult] at hbacked
        cases result with
        | error e =>
            rw [eval_bind_error hresult]
            exact hbacked
        | ok result =>
            rw [eval_bind_ok hresult]
            exact hbacked
  | request headers order clock =>
      -- A request with a key notes when the key was used, which no grant says.
      rcases validate_cases h headers order clock with
        ⟨apiKey, keyId, key, g, user, -, hkey, -, -, -, hok⟩ | ⟨⟨e, he⟩, -⟩
      · rw [answer, bind_eq, eval_bind_ok hok]
        have hused := backed_setApiKey h hkey (key.used (clock keyId)) rfl id
          fun g hfits => fits_used hfits (clock keyId)
        rwa [List.modify_id] at hused
      · rw [answer, bind_eq, eval_bind_error he]
        exact h

/-! ### Who is let in -/

/-- A user is who has registered. -/
theorem Linked.identity (h : Linked bcrypt jwt env log) {id : Nat} {user : User}
    (huser : log.world.users[id]? = some user) :
    user.status = .ACTIVE ∧ ∀ identity : Identity, identity.id = id →
      (Is log.history identity ↔ identity = ⟨id, user.email, user.role⟩) := by
  rcases h.registered huser with ⟨dto, salt, hregistration, haccount⟩
  have hemail : user.email = dto.email := congrArg Prod.fst haccount
  have hrole : user.role = dto.role.getD .USER :=
    congrArg (fun a : String × String × UserRole × UserStatus => a.2.2.1) haccount
  have hactive : user.status = .ACTIVE :=
    congrArg (fun a : String × String × UserRole × UserStatus => a.2.2.2) haccount
  -- There is one registration for an id, and the stored user agrees with it.
  refine ⟨hactive, fun identity hid => ⟨?_, ?_⟩⟩
  · rintro ⟨dto', salt', hsame, hemail', hrole'⟩
    rw [hid, hregistration] at hsame
    cases hsame
    rcases identity with ⟨id', email, role⟩
    dsimp only at hid hemail' hrole'
    rw [hid, hemail', hrole', hemail, hrole]
  · rintro rfl
    exact ⟨dto, salt, hregistration, hemail, hrole⟩

/-- What is read from a token that was handed out. -/
theorem Linked.read (h : Linked bcrypt jwt env log) (hjwt : jwt.Sound)
    (hsecret : env.signSecret = env.verifySecret) {session : Session Token}
    (hsession : session ∈ sessions log.history) (now : Int) :
    ∃ user, log.world.users[session.userId]? = some user ∧
      jwt.verify env.verifySecret session.token (seconds now) =
        if seconds now < session.issuedAt + env.expiresIn then
          some ⟨session.userId, user.email, user.role⟩
        else none := by
  rcases h.tokens session hsession with ⟨dto, salt, hregistration, htoken⟩
  rcases h.user hregistration with ⟨user, huser, haccount⟩
  have hemail : user.email = dto.email := congrArg Prod.fst haccount
  have hrole : user.role = dto.role.getD .USER :=
    congrArg (fun a : String × String × UserRole × UserStatus => a.2.2.1) haccount
  refine ⟨user, huser, ?_⟩
  rw [htoken, ← hsecret, hjwt, hemail, hrole]

/-- Somebody is let in with a token exactly if it was handed out to them and has not
    expired. -/
theorem Linked.validates_iff (h : Linked bcrypt jwt env log) (hjwt : jwt.Sound)
    (hsecret : env.signSecret = env.verifySecret) {text : Token} {now : Int}
    (hunforged : Unforged jwt env log.history text now) (identity : Identity) :
    ((validateToken jwt env (some text) now).eval log.world).1 = .ok identity ↔
      Entitled env log.history text now identity := by
  constructor
  · intro hin
    rcases @validateToken_cases Token jwt env log.world (some text) now with
      ⟨e, he⟩ | ⟨text', payload, user, htext, hverify, huser, hok⟩
    · rw [he] at hin
      cases hin
    · cases htext
      rw [hok] at hin
      cases hin
      -- A token that can be read was handed out, since none is forged.
      have hsome : jwt.verify env.verifySecret text (seconds now) ≠ none := by
        rw [hverify]
        exact Option.some_ne_none _
      rcases hunforged hsome with ⟨session, hsession, rfl⟩
      rcases h.read hjwt hsecret hsession now with ⟨user', huser', hread⟩
      rw [hverify] at hread
      split at hread
      · next hnow =>
          cases hread
          exact ⟨((h.identity huser).2 _ rfl).mpr rfl, session, hsession, rfl, rfl, hnow⟩
      · cases hread
  · -- A token of a session reads as it was signed until it expires.
    rintro ⟨his, session, hsession, rfl, hid, hnow⟩
    rcases h.read hjwt hsecret hsession now with ⟨user, huser, hread⟩
    rw [if_pos hnow] at hread
    have hidentity := ((h.identity huser).2 identity hid.symm).mp his
    rw [hidentity]
    exact congrArg Prod.fst (@validateToken_ok Token jwt env log.world (some session.token) now
      _ user hread huser (h.identity huser).1)

theorem linked_after (calls : List (Call Token)) :
    Linked bcrypt jwt env (after (step bcrypt jwt env) calls {}) := by
  have hempty : Linked bcrypt jwt env {} := ⟨rfl, fun session hsession => by cases hsession⟩
  have hcalls : Along (step bcrypt jwt env) (fun _ _ _ _ => True) calls {} :=
    along_of_forall (fun _ _ => trivial) calls ({} : Log Token)
  exact after_invariant (P := fun _ _ => True) (fun call log _ h => linked_step h call) hempty
    hcalls

/-- After every run a token lets somebody in exactly if it was handed out to them, who
    has registered, and has not expired. -/
theorem entered_iff (hjwt : jwt.Sound) (hsecret : env.signSecret = env.verifySecret)
    (calls : List (Call Token)) (text : Token) (now : Int)
    (hunforged : Unforged jwt env (after (step bcrypt jwt env) calls {}).history text now)
    (identity : Identity) :
    ((validateToken jwt env (some text) now).eval
      (after (step bcrypt jwt env) calls {}).world).1 = .ok identity ↔
    Entitled env (after (step bcrypt jwt env) calls {}).history text now identity :=
  (linked_after calls).validates_iff hjwt hsecret hunforged identity

/-! ### What answers are based on -/

/-- Nobody who has registered has an email that is not found. -/
theorem Linked.fresh (h : Linked bcrypt jwt env log) {email : String}
    (hnone : log.world.userOf email = none) :
    ∀ registration ∈ registrations log.history, registration.1.email ≠ email := by
  intro registration hregistration heq
  rcases List.mem_iff_getElem?.mp hregistration with ⟨i, hi⟩
  rcases h.user hi with ⟨user, huser, haccount⟩
  have hemail : user.email = email := (congrArg Prod.fst haccount).trans heq
  -- A registered user is in the table, so looking for the email finds somebody.
  cases hid : (log.world.users.map User.email).findIdx? (· = email) with
  | none =>
      have hmem := List.mem_map_of_mem (f := User.email) (List.mem_of_getElem? huser)
      have hne := List.findIdx?_eq_none_iff.mp hid _ hmem
      exact absurd hemail (of_decide_eq_false hne)
  | some j =>
      have hlt := (List.findIdx?_eq_some_iff_getElem.mp hid).1
      rw [List.length_map] at hlt
      have hfound := userOf_eq_some.mpr ⟨hid, List.getElem?_eq_getElem hlt⟩
      rw [hnone] at hfound
      cases hfound

/-- A user is found by the email. -/
theorem userOf_email {email : String} {user : User} {id : Nat}
    (h : world.userOf email = some (user, id)) : user.email = email := by
  rcases userOf_eq_some.mp h with ⟨hid, huser⟩
  rcases List.findIdx?_eq_some_iff_getElem.mp hid with ⟨hlt, hsame, -⟩
  have hget : (world.users.map User.email)[id]? = some user.email := by
    rw [List.getElem?_map, huser, Option.map_some]
  rw [List.getElem?_eq_getElem hlt] at hget
  rw [← Option.some.inj hget]
  exact of_decide_eq_true hsame

/-- A key that is taken back is one's own. -/
theorem revokeApiKey_owner {userId apiKeyId : Nat} {world' : World}
    (hok : (revokeApiKey userId apiKeyId).eval world = (.ok (), world')) :
    ∃ key, world.apiKeys[apiKeyId]? = some key ∧ key.userId = userId := by
  have hfind : (apiKeyRepository.findOne apiKeyId userId).eval world =
      (.ok (world.apiKeys[apiKeyId]?.filter fun key => key.userId = userId), world) := rfl
  -- A key of somebody else is not found.
  cases hkey : world.apiKeys[apiKeyId]?.filter fun key => key.userId = userId with
  | none =>
      rw [hkey] at hfind
      have hrefused : (revokeApiKey userId apiKeyId).eval world =
        (.error "API key not found", world) := eval_bind_ok hfind
      rw [hrefused] at hok
      cases hok
  | some key =>
      rcases Option.filter_eq_some_iff.mp hkey with ⟨hget, howner⟩
      exact ⟨key, hget, of_decide_eq_true howner⟩

theorem mem_getUserApiKeys {userId id : Nat} :
    id ∈ (((world.apiKeys.zipIdx.filter fun row => row.1.userId = userId).map
        fun row => (row.2, row.1)).reverse).map Prod.fst ↔
      ∃ key, world.apiKeys[id]? = some key ∧ key.userId = userId := by
  simp only [List.map_reverse, List.mem_reverse, List.map_map, List.mem_map, List.mem_filter,
    List.mem_zipIdx_iff_getElem?, decide_eq_true_iff, Function.comp_apply, Prod.exists]
  constructor
  · rintro ⟨key, i, ⟨hkey, howner⟩, rfl⟩
    exact ⟨key, hkey, howner⟩
  · rintro ⟨key, hkey, howner⟩
    exact ⟨key, id, ⟨hkey, howner⟩, rfl⟩

/-- The owner of a key is the one it was handed out to. -/
theorem owner_iff (h : Backed bcrypt world gs) {id userId : Nat} :
    (∃ key, world.apiKeys[id]? = some key ∧ key.userId = userId) ↔
      ∃ g, gs[id]? = some g ∧ g.userId = userId := by
  constructor
  · rintro ⟨key, hkey, rfl⟩
    rcases backed_grant h hkey with ⟨g, hg, hfits⟩
    exact ⟨g, hg, hfits.userId.symm⟩
  · rintro ⟨g, hg, rfl⟩
    have hlt : id < world.apiKeys.length := h.length ▸ (List.getElem?_eq_some_iff.mp hg).1
    have hkey := List.getElem?_eq_getElem hlt
    exact ⟨_, hkey, (h.fits id _ g hkey hg).userId⟩

/-- What somebody is answered is about keys of their own. -/
theorem ownKeys_perform (h : Backed bcrypt world gs) (user : Identity) (action : Action)
    {result : Answer Token} {world' : World}
    (hok : (perform bcrypt user action).eval world = (.ok result, world')) :
    OwnKeys gs user.id action result := by
  -- Listing and taking back look for the owner, and the others name no key there was.
  cases action with
  | createApiKey dto randomBytes salt => exact trivial
  | getApiKeys =>
      cases hok
      exact fun id => mem_getUserApiKeys.trans (owner_iff h)
  | revokeApiKey apiKeyId =>
      rcases hrevoked : (revokeApiKey user.id apiKeyId).eval world with ⟨answer, after⟩
      cases answer with
      | error e =>
          rw [perform, bind_eq, eval_bind_error hrevoked] at hok
          cases hok
      | ok _ => exact (owner_iff h).mp (revokeApiKey_owner hrevoked)
  | getProfile => exact trivial
  | getAllUsers => exact trivial

/-- An answer has its ground in the answers before it. -/
theorem grounded_step (hjwt : jwt.Sound) (hsecret : env.signSecret = env.verifySecret)
    (h : Linked bcrypt jwt env log)
    (hkeys : Backed bcrypt log.world (grants log.history)) (call : Call Token)
    (hhonest : Honest jwt env log.history call) :
    Grounded bcrypt env log.history (call, (step bcrypt jwt env log call).1) := by
  unfold step
  cases call with
  | register dto salt now =>
      -- The new user has the next number, and an address nobody has.
      rcases @registerUser_cases Token bcrypt jwt env log.world dto salt now with
        ⟨e, he⟩ | ⟨hnone, hok⟩
      · rw [answer, bind_eq, eval_bind_error he]
        exact trivial
      · rw [answer, bind_eq, eval_bind_ok hok]
        have hlength := congrArg List.length h.accounts
        rw [List.length_map, List.length_map] at hlength
        exact ⟨hlength, h.fresh hnone⟩
  | login dto now =>
      -- The stored hash was made when the user registered.
      rcases @loginUser_cases Token bcrypt jwt env log.world dto now with
        ⟨world', -, ⟨e, he⟩ | ⟨user, user', id, hfound, hmatch, -, hok⟩⟩
      · rw [answer, bind_eq, eval_bind_error he]
        exact trivial
      · rw [answer, bind_eq, eval_bind_ok hok]
        rcases h.registered (userOf_eq_some.mp hfound).2 with ⟨dto', salt, hregistration, haccount⟩
        have hemail : user.email = dto'.email := congrArg Prod.fst haccount
        have hhash : user.passwordHash = bcrypt.hash dto'.password saltRounds salt :=
          congrArg (fun a : String × String × UserRole × UserStatus => a.2.1) haccount
        exact ⟨dto', salt, hregistration, hemail.symm.trans (userOf_email hfound), hhash ▸ hmatch⟩
  | guarded token now action =>
      -- The token was handed out, and the keys of the answer are the caller's own.
      rcases @validateToken_cases Token jwt env log.world token now with
        ⟨e, he⟩ | ⟨text, payload, user, htext, -, -, hok⟩
      · rw [answer, bind_eq, eval_bind_error he]
        exact trivial
      · subst htext
        have hin := (h.validates_iff hjwt hsecret hhonest _).mp (congrArg Prod.fst hok)
        rw [answer, bind_eq, eval_bind_ok hok, bind_eq]
        rcases hresult : (perform bcrypt ⟨payload.sub, user.email, user.role⟩ action :
          Service (Answer Token)).eval log.world with ⟨result, world'⟩
        cases result with
        | error e =>
            rw [eval_bind_error hresult]
            exact trivial
        | ok result =>
            rw [eval_bind_ok hresult]
            exact ⟨_, text, rfl, rfl, hin, ownKeys_perform hkeys _ action hresult⟩
  | request headers order clock =>
      -- The key was granted, and neither revoked nor expired since.
      rcases validate_cases hkeys headers order clock with
        ⟨apiKey, keyId, key, g, user, hheader, -, hg, hopens, huser, hok⟩ | ⟨⟨e, he⟩, -⟩
      · rw [answer, bind_eq, eval_bind_ok hok]
        exact ⟨_, apiKey, keyId, g, rfl, hheader, hg, hopens, rfl,
          ((h.identity huser).2 _ rfl).mpr rfl⟩
      · rw [answer, bind_eq, eval_bind_error he]
        exact trivial

/-- In every run without forged tokens, every answer has its ground in the answers
    before it: a token is handed out when somebody registers or comes with the
    password of a registration, somebody is let in by a token of theirs, keys are
    created, listed and taken back by their owners, and a key lets its owner in. -/
theorem grounded_run (hbcrypt : Sound bcrypt) (hjwt : jwt.Sound)
    (hsecret : env.signSecret = env.verifySecret) (calls : List (Call Token))
    (hhonest : Along (step bcrypt jwt env)
      (fun call log _ _ => Honest jwt env log.history call) calls {}) :
    Along (step bcrypt jwt env)
      (fun call log result _ => Grounded bcrypt env log.history (call, result)) calls {} := by
  have hempty : Linked bcrypt jwt env {} ∧
      Backed bcrypt ({} : Log Token).world (grants ({} : Log Token).history) :=
    ⟨⟨rfl, fun session hsession => by cases hsession⟩, ⟨rfl, by simp, by simp⟩⟩
  refine along_invariant (I := fun log : Log Token =>
    Linked bcrypt jwt env log ∧ Backed bcrypt log.world (grants log.history)) ?_ hempty hhonest
  rintro call log hcall ⟨hlinked, hkeys⟩
  exact ⟨grounded_step hjwt hsecret hlinked hkeys call hcall,
    linked_step hlinked call, keys_step hbcrypt hkeys call⟩

end

/-! ### Tests -/

/-- Tokens that can be read by everybody, but for who does not have the secret. -/
def plainJwt : Jwt (String × JwtPayload × Int × Int) where
  sign secret payload issuedAt expiresIn := (secret, payload, issuedAt, expiresIn)
  verify secret token now :=
    if token.1 = secret ∧ now < token.2.2.1 + token.2.2.2 then some token.2.1 else none

theorem plainJwt_sound : plainJwt.Sound := by
  intro secret payload issuedAt expiresIn now
  simp [plainJwt]

/-- The token of the witness. -/
def sampleToken : String × JwtPayload × Int × Int :=
  ("default-secret-key", ⟨0, "ann@example.org", .USER⟩, 0, 24 * 60 * 60)

/-- The registration of the witness. -/
def sampleRegistration : Call (String × JwtPayload × Int × Int) :=
  .register { email := "ann@example.org", password := "secret" } "" 0

theorem sampleToken_unforged : Unforged plainJwt {}
    (after (step plainBcrypt plainJwt {}) [sampleRegistration] {}).history sampleToken 5000 :=
  fun _ => ⟨⟨0, sampleToken, 0⟩, List.mem_singleton_self _, rfl⟩

theorem sampleToken_entered :
    ((validateToken plainJwt {} (some sampleToken) 5000).eval
      (after (step plainBcrypt plainJwt {}) [sampleRegistration] {}).world).1 =
    .ok ⟨0, "ann@example.org", .USER⟩ :=
  (entered_iff plainJwt_sound rfl [sampleRegistration] sampleToken 5000 sampleToken_unforged _).mpr
    ⟨⟨_, _, rfl, rfl, rfl⟩, ⟨0, sampleToken, 0⟩, List.mem_singleton_self _, rfl, rfl, by decide⟩

/-- The run of the witness. -/
def sampleRun : List (Call (String × JwtPayload × Int × Int)) :=
  [sampleRegistration,
    .guarded (some sampleToken) 5000 (.createApiKey {} (Vector.replicate 32 7) "")]

theorem sampleRun_grounded : Along (step plainBcrypt plainJwt {})
    (fun call log result _ => Grounded plainBcrypt {} log.history (call, result)) sampleRun {} :=
  grounded_run plainBcrypt_sound plainJwt_sound rfl sampleRun
    ⟨trivial, sampleToken_unforged, trivial⟩

end Sessions

end Security

end SvmCourse
