import SvmCourse.Core.Json
import SvmCourse.Core.Prog

/-!
# Query Cache

Accounts and tokens, each with a service of its own. Some of the methods of both
services are cached: what they return is kept under the name of the method and its
arguments, and returned again until it expires. Both services use the same store
for that.

A call is made at one instant, and time passes between calls. It is counted in
milliseconds. What is cached is kept as the value it stands for in JSON, with the
service that has put it there. A value of null is not told from one that is
missing.

## Main definitions

* `Columns`: What the columns of a table make of rows.
* `World`: The tables, the cache and the time.
* `executeWithCache`, `queryCache`: Cached methods.
* `AccountsService`, `TokensService`: The methods of both services.
-/

namespace SvmCourse

namespace Caching

open Core Core.Prog

/-! ### Entities -/

/-- A row of the accounts. -/
structure Account where
  id : String
  address : String
  owner : Option String := none
  balance : Int := 0
  isPda : Bool := false
  programId : Option String := none
  deriving DecidableEq

/-- The columns of an account that are given. -/
structure AccountData where
  id : Option String := none
  address : Option String := none
  owner : Option (Option String) := none
  balance : Option Int := none
  isPda : Option Bool := none
  programId : Option (Option String) := none

/-- A row of the tokens. -/
structure Token where
  id : String
  mintAddress : String
  name : String
  symbol : String
  decimals : Int
  supply : Option String := none
  owner : Option String := none
  isNft : Bool := false
  deriving DecidableEq

/-- The columns of a token that are given. -/
structure TokenData where
  id : Option String := none
  mintAddress : Option String := none
  name : Option String := none
  symbol : Option String := none
  decimals : Option Int := none
  supply : Option (Option String) := none
  owner : Option (Option String) := none
  isNft : Option Bool := none

/-! ### Tables -/

/-- The id and the unique column of the rows of a table, and what the data of a
    call makes of them. -/
structure Columns (R D : Type) where
  id : R → String
  unique : R → String
  givenId : D → Option String
  insert : String → D → Except String R
  assign : D → R → R

namespace Columns

variable {R D : Type}

/-- Rows that agree in the id or in the unique column are refused. -/
def commit (columns : Columns R D) (rows : List R) : Except String (List R) :=
  -- Both constraints are of the table as a whole.
  if (rows.map columns.id).Nodup ∧ (rows.map columns.unique).Nodup then .ok rows
  else .error "duplicate key value violates unique constraint"

/-- Assign the data to the row with that id, and keep the table if it can be written
    so. -/
def update (columns : Columns R D) (id : String) (data : D) (rows : List R) :
    Except String (List R) :=
  columns.commit (rows.map fun row => if columns.id row = id then columns.assign data row else row)

/-- The row with the given id is changed, or a row is inserted. -/
def save (columns : Columns R D) (uuid : String) (data : D) (rows : List R) :
    Except String (List R) :=
  let id := (columns.givenId data).getD uuid
  if rows.any fun row => columns.id row = id then columns.update id data rows
  else do
    let row ← columns.insert id data
    columns.commit (rows ++ [row])

/-- Drop the row with that id. -/
def delete (columns : Columns R D) (id : String) (rows : List R) : List R :=
  rows.filter fun row => columns.id row ≠ id

end Columns

/-- A column that must be given. -/
def required {α : Type} (column : String) (given : Option α) : Except String α :=
  match given with
  | some a => .ok a
  | none => .error s!"null value in column \"{column}\" violates not-null constraint"

/-- Columns that are not given stay what they are. -/
def AccountData.assign (data : AccountData) (account : Account) : Account where
  id := data.id.getD account.id
  address := data.address.getD account.address
  owner := data.owner.getD account.owner
  balance := data.balance.getD account.balance
  isPda := data.isPda.getD account.isPda
  programId := data.programId.getD account.programId

/-- The columns of the accounts, of which the address is unique. -/
def accountColumns : Columns Account AccountData where
  id := Account.id
  unique := Account.address
  givenId := AccountData.id
  insert id data := do
    let address ← required "address" data.address
    pure (data.assign { id, address })
  assign := AccountData.assign

/-- Columns that are not given stay what they are. -/
def TokenData.assign (data : TokenData) (token : Token) : Token where
  id := data.id.getD token.id
  mintAddress := data.mintAddress.getD token.mintAddress
  name := data.name.getD token.name
  symbol := data.symbol.getD token.symbol
  decimals := data.decimals.getD token.decimals
  supply := data.supply.getD token.supply
  owner := data.owner.getD token.owner
  isNft := data.isNft.getD token.isNft

/-- The columns of the tokens, of which the mint address is unique. -/
def tokenColumns : Columns Token TokenData where
  id := Token.id
  unique := Token.mintAddress
  givenId := TokenData.id
  insert id data := do
    let mintAddress ← required "mintAddress" data.mintAddress
    let name ← required "name" data.name
    let symbol ← required "symbol" data.symbol
    let decimals ← required "decimals" data.decimals
    pure (data.assign { id, mintAddress, name, symbol, decimals })
  assign := TokenData.assign

/-! ### The world -/

/-- The two services that cache their reads. -/
inductive ServiceName where
  | AccountsService | TokensService
  deriving DecidableEq, Repr

/-- A row of either table. -/
inductive Row where
  | account (account : Account)
  | token (token : Token)
  deriving DecidableEq

/-- What a method returns. -/
inductive Value where
  | null
  | row (row : Row)
  | rows (rows : List Row)
  deriving DecidableEq

/-- What `findOne` returns: a row, or null. -/
def Value.ofOption (row : Option Row) : Value := (row.map Value.row).getD .null

/-- A value with the last instant at which it is there, and the service that has
    put it there. -/
structure CacheEntry where
  value : Value
  expiresAt : Nat
  writer : ServiceName
  deriving DecidableEq

/-- The two tables, the shared cache and the clock. -/
structure World where
  now : Nat := 0
  accounts : List Account := []
  tokens : List Token := []
  redis : String → Option CacheEntry := fun _ => none

/-- What is there under a key and has not expired. -/
def World.entry (world : World) (key : String) : Option CacheEntry :=
  (world.redis key).filter fun entry => world.now < entry.expiresAt

/-- A call of a service: reads and writes one after the other, or an error. -/
abbrev Service := Prog World String

/-- One access to the world. -/
def query {α : Type} (act : World → α × World) : Service α := Prog.perform "StoreError" act

/-- Replacing the rows of a table, unless that is refused. -/
def replace {R : Type} (read : World → List R) (write : World → List R → World)
    (change : List R → Except String (List R)) : Service Unit := do
  let answer ← query fun world =>
    match change (read world) with
    | .ok rows => (.ok (), write world rows)
    | .error message => (.error message, world)
  compute answer

namespace accountsRepository

/-- A write of the accounts. -/
def change (change : List Account → Except String (List Account)) : Service Unit :=
  replace World.accounts (fun world accounts => { world with accounts }) change

/-- All accounts. -/
def find : Service Value := query fun world => (.rows (world.accounts.map .account), world)

/-- The first account of that kind. -/
def findOne (kind : Account → Bool) : Service Value :=
  query fun world => (.ofOption ((world.accounts.find? kind).map .account), world)

end accountsRepository

namespace tokensRepository

/-- A write of the tokens. -/
def change (change : List Token → Except String (List Token)) : Service Unit :=
  replace World.tokens (fun world tokens => { world with tokens }) change

/-- All tokens. -/
def find : Service Value := query fun world => (.rows (world.tokens.map .token), world)

/-- The first token of that kind. -/
def findOne (kind : Token → Bool) : Service Value :=
  query fun world => (.ofOption ((world.tokens.find? kind).map .token), world)

end tokensRepository

namespace cacheService

/-- Null is not told from what is missing. -/
def get (key : String) : Service (Option Value) :=
  query fun world => (((world.entry key).map CacheEntry.value).filter (· ≠ .null), world)

/-- The time to live is in seconds. -/
def set (service : ServiceName) (key : String) (value : Value) (ttl : Nat) : Service Unit :=
  query fun world => ((), { world with
    redis := Function.update world.redis key
      (some ⟨value, world.now + ttl * 1000, service⟩) })

end cacheService

/-! ### Cached methods -/

/-- Answer from the cache, or ask the repository and store the answer. -/
def executeWithCache (service : ServiceName) (key : String) (queryFn : Service Value) (ttl : Nat)
    (keyPrefix : String) : Service Value := do
  -- The key does not say which service asks.
  let cacheKey := keyPrefix ++ ":" ++ key
  let cachedResult ← cacheService.get cacheKey
  match cachedResult with
  | some value => pure value
  | none =>
    let result ← queryFn
    -- Also null is kept, and not found again.
    cacheService.set service cacheKey result ttl
    pure result

/-- A method of a service, cached under its name and its arguments. -/
def queryCache (service : ServiceName) (ttl : Nat) (propertyKey : String) (args : List String)
    (method : Service Value) : Service Value :=
  executeWithCache service (propertyKey ++ ":" ++ Json.stringify args) method ttl "query"

namespace AccountsService

/-- Save a new account. -/
def create (uuid : String) (accountData : AccountData) : Service Unit :=
  accountsRepository.change (accountColumns.save uuid accountData)

/-- All accounts, cached for five minutes. -/
def findAll : Service Value := queryCache .AccountsService 300 "findAll" [] accountsRepository.find

/-- The account with that id, cached for ten minutes. -/
def findOne (id : String) : Service Value :=
  queryCache .AccountsService 600 "findOne" [id]
    (accountsRepository.findOne fun account => account.id = id)

/-- The account with that address, cached for ten minutes. -/
def findByAddress (address : String) : Service Value :=
  queryCache .AccountsService 600 "findByAddress" [address]
    (accountsRepository.findOne fun account => account.address = address)

/-- Update the account and return it as `findOne` answers. -/
def update (id : String) (updateData : AccountData) : Service Value := do
  accountsRepository.change (accountColumns.update id updateData)
  findOne id

/-- Delete the account. -/
def remove (id : String) : Service Unit :=
  accountsRepository.change fun accounts => .ok (accountColumns.delete id accounts)

end AccountsService

namespace TokensService

/-- Save a new token. -/
def create (uuid : String) (tokenData : TokenData) : Service Unit :=
  tokensRepository.change (tokenColumns.save uuid tokenData)

/-- All tokens, cached for five minutes. -/
def findAll : Service Value := queryCache .TokensService 300 "findAll" [] tokensRepository.find

/-- The token with that id, cached for ten minutes. -/
def findOne (id : String) : Service Value :=
  queryCache .TokensService 600 "findOne" [id]
    (tokensRepository.findOne fun token => token.id = id)

/-- The token with that mint address, cached for ten minutes. -/
def findByMint (mintAddress : String) : Service Value :=
  queryCache .TokensService 600 "findByMint" [mintAddress]
    (tokensRepository.findOne fun token => token.mintAddress = mintAddress)

/-- Update the token and return it as `findOne` answers. -/
def update (id : String) (updateData : TokenData) : Service Value := do
  tokensRepository.change (tokenColumns.update id updateData)
  findOne id

/-- Delete the token. -/
def remove (id : String) : Service Unit :=
  tokensRepository.change fun tokens => .ok (tokenColumns.delete id tokens)

end TokensService

end Caching

end SvmCourse
