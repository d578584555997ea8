import Mathlib.Data.List.Sort
import SvmCourse.Core.Prog
import SvmCourse.Core.Throttle

/-!
# Authentication

Users with their passwords, and API keys. A login looks up the user, checks that
the account is not locked, compares the password and saves the user with the
failed attempts counted or forgotten. A validation of an API key looks up the
keys with its prefix, compares it with one after another, and saves the key that
matches with its usage counted.

Every access to the database is one step, and saving writes all fields of the
entity over the row. What bcrypt does is a parameter, and so is the clock: it is
read once for a login, and once for each key a validation looks at. The id of a
row is its position. The keys with a prefix come in an order that is decided
outside. The checks of passwords are kept, the latest first.

## Main definitions

* `User`, `ApiKey`: The entities.
* `Bcrypt`: Hashing and comparing.
* `World`: The tables, and the passwords that were checked.
* `register`, `login`, `handleFailedLogin`: Users.
* `validateApiKey`, `revokeApiKey`: API keys.
-/

namespace SvmCourse

namespace Security

open Core Core.Prog

/-! ### Entities -/

/-- What a user may do. -/
inductive UserRole where
  | ADMIN | USER | READONLY
  deriving DecidableEq, Repr

/-- The statuses of a user. -/
inductive UserStatus where
  | ACTIVE | INACTIVE | SUSPENDED
  deriving DecidableEq, Repr

/-- A row of the users. -/
structure User where
  email : String
  passwordHash : String
  role : UserRole := .USER
  status : UserStatus := .ACTIVE
  lastLoginAt : Option Int := none
  loginAttempts : Int := 0
  lockedUntil : Option Int := none
  deriving DecidableEq

namespace User

/-- The account is locked for now. -/
def isLocked (user : User) (now : Int) : Bool := user.lockedUntil.any (now < ·)

/-- The user may try to log in. -/
def canAttemptLogin (user : User) (now : Int) : Bool :=
  !user.isLocked now && user.status = .ACTIVE

end User

/-- The statuses of a key. -/
inductive ApiKeyStatus where
  | ACTIVE | INACTIVE | REVOKED
  deriving DecidableEq, Repr

/-- A row of the keys. -/
structure ApiKey where
  userId : Nat
  keyHash : String
  keyPrefix : String
  status : ApiKeyStatus := .ACTIVE
  expiresAt : Option Int := none
  lastUsedAt : Option Int := none
  usageCount : Int := 0
  deriving DecidableEq

namespace ApiKey

/-- The time of the key is over. -/
def isExpired (key : ApiKey) (now : Int) : Bool := key.expiresAt.any (· < now)

/-- The key opens what it opens. -/
def isValid (key : ApiKey) (now : Int) : Bool := key.status = .ACTIVE && !key.isExpired now

/-- The key with its usage counted. -/
def used (key : ApiKey) (now : Int) : ApiKey :=
  { key with lastUsedAt := some now, usageCount := key.usageCount + 1 }

end ApiKey

/-- Hashing a text with a number of rounds and a salt, and comparing a text with
    a hash. -/
structure Bcrypt where
  hash : String → Nat → String → String
  compare : String → String → Bool

/-! ### The world -/

/-- The tables, and when which passwords were checked with success. -/
structure World where
  users : List User := []
  apiKeys : List ApiKey := []
  checks : List (Throttle.Entry Int) := []

/-- A call of the service: accesses one after the other, or an error. -/
abbrev Service := Prog World String

/-- One access to the world. -/
def query {α : Type} (act : World → α × World) : Service α := Prog.perform "StoreError" act

namespace World

/-- The user with an email and its id. -/
def userOf (world : World) (email : String) : Option (User × Nat) := do
  let id ← (world.users.map User.email).findIdx? (· = email)
  let user ← world.users[id]?
  pure (user, id)

/-- The world with the row of a user written. -/
def setUser (world : World) (id : Nat) (user : User) : World :=
  { world with users := world.users.set id user }

/-- The keys with a prefix and their ids. -/
def keysOf (world : World) (keyPrefix : String) : List (ApiKey × Nat) :=
  world.apiKeys.zipIdx.filter fun row => row.1.keyPrefix = keyPrefix

/-- The world with the row of a key written. -/
def setApiKey (world : World) (id : Nat) (key : ApiKey) : World :=
  { world with apiKeys := world.apiKeys.set id key }

end World

namespace userRepository

/-- The user with that email, and the place of the row. -/
def findOne (email : String) : Service (Option (User × Nat)) :=
  query fun world => (world.userOf email, world)

/-- Save a new user. -/
def insert (user : User) : Service Unit :=
  query fun world => ((), { world with users := world.users ++ [user] })

/-- Write the row at that place. -/
def save (id : Nat) (user : User) : Service Unit := query fun world => ((), world.setUser id user)

end userRepository

namespace apiKeyRepository

/-- The keys with that prefix, in the order the database finds them. -/
def find (keyPrefix : String) (order : Nat → Nat) : Service (List (ApiKey × Nat)) :=
  query fun world =>
    ((world.keysOf keyPrefix).insertionSort (fun row row' => order row.2 ≤ order row'.2), world)

/-- The key with that id, if it is the user's. -/
def findOne (apiKeyId userId : Nat) : Service (Option ApiKey) :=
  query fun world => (world.apiKeys[apiKeyId]?.filter fun key => key.userId = userId, world)

/-- Write the row at that place. -/
def save (id : Nat) (key : ApiKey) : Service Unit := query fun world => ((), world.setApiKey id key)

end apiKeyRepository

/-! ### Users -/

/-- The body of a registration. -/
structure RegisterUserDto where
  email : String
  password : String
  role : Option UserRole := none

/-- How much work a hash takes. -/
def saltRounds : Nat := 12

/-- Register a user with a new email. -/
def register (bcrypt : Bcrypt) (dto : RegisterUserDto) (salt : String) : Service User := do
  let existingUser ← userRepository.findOne dto.email
  require existingUser.isNone "User with this email already exists"
  let user : User := {
    email := dto.email
    passwordHash := bcrypt.hash dto.password saltRounds salt
    role := dto.role.getD .USER
    status := .ACTIVE }
  userRepository.insert user
  pure user

/-- The body of a login. -/
structure LoginUserDto where
  email : String
  password : String

/-- Whether a password matches. That it was checked is kept. -/
def checkPassword (bcrypt : Bcrypt) (password passwordHash : String) (now : Int) : Service Bool :=
  query fun world => (bcrypt.compare password passwordHash,
    { world with checks := ⟨now, bcrypt.compare password passwordHash⟩ :: world.checks })

/-- In milliseconds. -/
def lockTime : Int := 15 * 60 * 1000

/-- The user after a failed attempt. -/
def User.failed (user : User) (now : Int) : User :=
  let loginAttempts := user.loginAttempts + 1
  -- A lock that has expired does not start the count again.
  { user with
    loginAttempts
    lockedUntil := if 5 ≤ loginAttempts then some (now + lockTime) else user.lockedUntil }

/-- Save the user after a failed attempt. -/
def handleFailedLogin (id : Nat) (user : User) (now : Int) : Service Unit :=
  userRepository.save id (user.failed now)

/-- Log in: find the user, refuse one who is locked, and compare the password. -/
def login (bcrypt : Bcrypt) (dto : LoginUserDto) (now : Int) : Service User := do
  let found ← userRepository.findOne dto.email
  let row ← demand found "Invalid credentials"
  let user := row.1
  let id := row.2
  require (user.canAttemptLogin now) "Account is locked or inactive"
  let isPasswordValid ← checkPassword bcrypt dto.password user.passwordHash now
  if isPasswordValid then
    -- The time of an old lock stays, as it is over.
    let user := { user with loginAttempts := 0, lastLoginAt := some now }
    userRepository.save id user
    pure user
  else
    handleFailedLogin id user now
    raise "Invalid credentials"

/-! ### API keys -/

/-- The prefix by which a key is found. -/
def keyPrefixOf (apiKey : String) : String := String.ofList (apiKey.toList.take 8)

/-- Comparing an API key with one key after another. -/
def validateKeys (bcrypt : Bcrypt) (apiKey : String) (clock : Nat → Int) :
    List (ApiKey × Nat) → Service (Option ApiKey)
  | [] => pure none
  | (key, id) :: keys =>
    -- A key that matches and is not valid does not end the search.
    if bcrypt.compare apiKey key.keyHash && key.isValid (clock id) then do
      apiKeyRepository.save id (key.used (clock id))
      pure (some (key.used (clock id)))
    else validateKeys bcrypt apiKey clock keys

/-- The key that the text opens, if there is one. -/
def validateApiKey (bcrypt : Bcrypt) (apiKey : String) (order : Nat → Nat) (clock : Nat → Int) :
    Service (Option ApiKey) := do
  let apiKeys ← apiKeyRepository.find (keyPrefixOf apiKey) order
  validateKeys bcrypt apiKey clock apiKeys

/-- Revoke a key of the user. -/
def revokeApiKey (userId apiKeyId : Nat) : Service Unit := do
  -- Nobody finds the key of somebody else.
  let apiKey ← apiKeyRepository.findOne apiKeyId userId
  let key ← demand apiKey "API key not found"
  apiKeyRepository.save apiKeyId { key with status := .REVOKED }

end Security

end SvmCourse
