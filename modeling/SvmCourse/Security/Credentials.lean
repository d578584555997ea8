import Mathlib.Data.List.Forall2
import SvmCourse.Core.Machine
import SvmCourse.Security.ApiKeys

/-!
# Credentials

A key that has been created lets its owner in until it is revoked or expires. Its text is
seen once, when it is created; the table has its first letters and a hash. Whoever comes
with a text, in a header of its own or in the one for tokens, is compared with every key
that begins as the text does.

So the table has to say the same as the answers that have been given: which texts were
handed out, to whom, and which of them were taken back. The calls come one after another
here. How a user is doing, and whether an account is locked, is not looked at.

## Main definitions

* `Headers.apiKey`: The text that is found in a request.
* `createApiKey`, `validate`: Handing out a key, and letting somebody in.
* `Call`, `step`: The service as a machine.
* `grants`: The keys that were handed out, by what was answered.
* `Decided`: A request is let in exactly if it comes with such a key.

## Theorems

* `validateKeys_eval`: The first key that matches and is valid is found.
* `backed_step`: The table says what the answers say.
* `request_decided`: Every request is decided by the answers before it.
-/

namespace SvmCourse

namespace Security

namespace Credentials

open Core Core.Prog Core.Machine

/-! ### Requests -/

/-- The text without the first place where a pattern is found. -/
def removeFirst (pattern : List Char) : List Char → List Char
  | [] => []
  | c :: rest =>
    if pattern.isPrefixOf (c :: rest) then (c :: rest).drop pattern.length
    else c :: removeFirst pattern rest

/-- The headers that the guard reads. -/
structure Headers where
  xApiKey : Option String := none
  authorization : Option String := none

/-- An empty text counts as none. -/
def Headers.apiKey (headers : Headers) : Option String :=
  let token := headers.authorization.map fun text =>
    String.ofList (removeFirst "Bearer ".toList text.toList)
  ((headers.xApiKey.filter (· ≠ "")).or token).filter (· ≠ "")

/-! ### The service -/

/-- None is not given, and a text that is no date is given as such. -/
structure CreateApiKeyDto where
  expiresAt : Option (Option Int) := none

/-- A digit of a key. -/
def hexDigit (n : Nat) : Char := "0123456789abcdef".toList.getD n '0'

/-- Two digits for each byte. -/
def toHex (bytes : List UInt8) : String :=
  String.ofList (bytes.flatMap fun byte => [hexDigit (byte.toNat / 16), hexDigit (byte.toNat % 16)])

/-- A new key. -/
def generateSecureApiKey (randomBytes : Vector UInt8 32) : String :=
  "sk_" ++ toHex randomBytes.toList

/-- The id of the key, and the text that is seen once. -/
def createApiKey (bcrypt : Bcrypt) (userId : Nat) (dto : CreateApiKeyDto)
    (randomBytes : Vector UInt8 32) (salt : String) : Service (Nat × String) := do
  let user ← query fun world => (world.users[userId]?, world)
  -- The user is looked up before the date is read.
  let _ ← demand user "User not found"
  let plainKey := generateSecureApiKey randomBytes
  require (dto.expiresAt ≠ some none) "Invalid expiration date"
  let key : ApiKey := {
    userId
    keyHash := bcrypt.hash plainKey saltRounds salt
    keyPrefix := keyPrefixOf plainKey
    expiresAt := dto.expiresAt.join }
  let id ← query fun world =>
    (world.apiKeys.length, { world with apiKeys := world.apiKeys ++ [key] })
  pure (id, plainKey)

/-- Who is let in. -/
structure Identity where
  id : Nat
  email : String
  role : UserRole
  deriving DecidableEq

/-- The user is loaded with the key. -/
def validate (bcrypt : Bcrypt) (headers : Headers) (order : Nat → Nat) (clock : Nat → Int) :
    Service Identity := do
  let apiKey ← demand headers.apiKey "API key is required"
  let validated ← validateApiKey bcrypt apiKey order clock
  let key ← demand validated "Invalid API key"
  let user ← query fun world => (world.users[key.userId]?, world)
  let user ← demand user "Cannot read properties of null"
  pure { id := key.userId, email := user.email, role := user.role }

/-- The calls of a run. -/
inductive Call where
  | register (dto : RegisterUserDto) (salt : String)
  | login (dto : LoginUserDto) (now : Int)
  | createApiKey (userId : Nat) (dto : CreateApiKeyDto) (randomBytes : Vector UInt8 32)
    (salt : String)
  | revokeApiKey (userId apiKeyId : Nat)
  | request (headers : Headers) (order : Nat → Nat) (clock : Nat → Int)

/-- What a call answers. -/
inductive Answer where
  | user (user : User)
  | key (id : Nat) (plainKey : String)
  | revoked
  | identity (identity : Identity)

/-- What a call does, access by access. -/
def answer (bcrypt : Bcrypt) : Call → Service Answer
  | .register dto salt => do return .user (← register bcrypt dto salt)
  | .login dto now => do return .user (← login bcrypt dto now)
  | .createApiKey userId dto randomBytes salt => do
    let created ← createApiKey bcrypt userId dto randomBytes salt
    return .key created.1 created.2
  | .revokeApiKey userId apiKeyId => do
    revokeApiKey userId apiKeyId
    return .revoked
  | .request headers order clock => do return .identity (← validate bcrypt headers order clock)

/-- One call on the tables. -/
def step (bcrypt : Bcrypt) (world : World) (call : Call) : Except String Answer × World :=
  (answer bcrypt call).eval world

/-! ### What was answered -/

/-- A key that was handed out. -/
structure Grant where
  userId : Nat
  text : String
  expiresAt : Option Int
  revoked : Bool
  deriving DecidableEq

/-- The grant, revoked. -/
def Grant.revoke (grant : Grant) : Grant := { grant with revoked := true }

/-- It lets in whoever comes with its text. -/
def Grant.opens (grant : Grant) (text : String) (now : Int) : Prop :=
  grant.text = text ∧ grant.revoked = false ∧ ¬ grant.expiresAt.any (· < now) = true

/-- What an answer makes of the keys that were handed out. -/
def grant (grants : List Grant) : Call × Except String Answer → List Grant
  | (.createApiKey userId dto _ _, .ok (.key _ plainKey)) =>
    grants ++ [⟨userId, plainKey, dto.expiresAt.join, false⟩]
  | (.revokeApiKey _ apiKeyId, .ok .revoked) => grants.modify apiKeyId Grant.revoke
  | _ => grants

/-- What was granted in a history. -/
def grants (history : List (Call × Except String Answer)) : List Grant := history.foldl grant []

/-! ### Calls -/

section

variable {bcrypt : Bcrypt} {world : World}

/-- A key is handed out to a user that there is, or nothing happens. -/
theorem createApiKey_cases (userId : Nat) (dto : CreateApiKeyDto) (randomBytes : Vector UInt8 32)
    (salt : String) :
    (∃ e, (createApiKey bcrypt userId dto randomBytes salt).eval world = (.error e, world)) ∨
    (userId < world.users.length ∧
      (createApiKey bcrypt userId dto randomBytes salt).eval world =
        (.ok (world.apiKeys.length, generateSecureApiKey randomBytes),
          { world with apiKeys := world.apiKeys ++ [{
            userId
            keyHash := bcrypt.hash (generateSecureApiKey randomBytes) saltRounds salt
            keyPrefix := keyPrefixOf (generateSecureApiKey randomBytes)
            expiresAt := dto.expiresAt.join }] })) := by
  have hfind : (query fun world => (world.users[userId]?, world)).eval world =
      (.ok world.users[userId]?, world) := rfl
  cases huser : world.users[userId]? with
  | none =>
      refine Or.inl ⟨"User not found", ?_⟩
      rw [huser] at hfind
      exact eval_bind_ok hfind
  | some user =>
      rw [huser] at hfind
      have hcreate := fun f : Option User → Service (Nat × String) => eval_bind_ok hfind (f := f)
      -- A date that cannot be parsed is refused.
      by_cases hdate : dto.expiresAt = some none
      · refine Or.inl ⟨"Invalid expiration date", ?_⟩
        refine (hcreate _).trans ?_
        simp [hdate, require, eval_bind, eval]
      · refine Or.inr ⟨(List.getElem?_eq_some_iff.mp huser).1, ?_⟩
        refine (hcreate _).trans ?_
        simp [hdate, require, eval_bind, query]

/-- A key is taken back by its user, or nothing happens. -/
theorem revokeApiKey_cases (userId apiKeyId : Nat) :
    (∃ e, (revokeApiKey userId apiKeyId).eval world = (.error e, world)) ∨
    ∃ key, world.apiKeys[apiKeyId]? = some key ∧
      (revokeApiKey userId apiKeyId).eval world =
        (.ok (), world.setApiKey apiKeyId { key with status := .REVOKED }) := by
  have hfind : (apiKeyRepository.findOne apiKeyId userId).eval world =
      (.ok (world.apiKeys[apiKeyId]?.filter fun key => key.userId = userId), world) := rfl
  cases hkey : world.apiKeys[apiKeyId]?.filter fun key => key.userId = userId with
  | none =>
      rw [hkey] at hfind
      exact Or.inl ⟨"API key not found", eval_bind_ok hfind⟩
  | some key =>
      rw [hkey] at hfind
      exact Or.inr ⟨key, (Option.filter_eq_some_iff.mp hkey).1, eval_bind_ok hfind⟩

/-- The first key that matches and is valid is found, and its usage is counted. -/
theorem validateKeys_eval (apiKey : String) (clock : Nat → Int) (rows : List (ApiKey × Nat)) :
    (validateKeys bcrypt apiKey clock rows).eval world =
      match rows.find? fun row =>
          bcrypt.compare apiKey row.1.keyHash && row.1.isValid (clock row.2) with
      | none => (.ok none, world)
      | some (key, id) =>
        (.ok (some (key.used (clock id))), world.setApiKey id (key.used (clock id))) := by
  induction rows with
  | nil => rfl
  | cons row rows ih =>
      rcases row with ⟨key, id⟩
      rw [validateKeys, List.find?_cons]
      -- The loop stops at the first key that matches.
      split
      · next hmatch =>
          rw [hmatch]
          rfl
      · next hno =>
          rw [Bool.not_eq_true _ |>.mp hno]
          exact ih

/-! ### Keys in the table -/

/-- A key says the same as what was handed out. -/
structure Fits (bcrypt : Bcrypt) (key : ApiKey) (g : Grant) : Prop where
  userId : key.userId = g.userId
  compare : ∀ apiKey, bcrypt.compare apiKey key.keyHash = true ↔ apiKey = g.text
  keyPrefix : key.keyPrefix = keyPrefixOf g.text
  status : key.status = .ACTIVE ↔ g.revoked = false
  expiresAt : key.expiresAt = g.expiresAt

/-- The table says what the answers say, and every key has a user. -/
structure Backed (bcrypt : Bcrypt) (world : World) (gs : List Grant) : Prop where
  length : world.apiKeys.length = gs.length
  fits : ∀ (id : Nat) (key : ApiKey) (g : Grant), world.apiKeys[id]? = some key →
    gs[id]? = some g → Fits bcrypt key g
  users : ∀ key ∈ world.apiKeys, key.userId < world.users.length

variable {gs : List Grant}

/-- Counting a usage changes nothing that was handed out. -/
theorem fits_used {key : ApiKey} {g : Grant} (h : Fits bcrypt key g) (now : Int) :
    Fits bcrypt (key.used now) g :=
  ⟨h.userId, h.compare, h.keyPrefix, h.status, h.expiresAt⟩

theorem fits_revoke {key : ApiKey} {g : Grant} (h : Fits bcrypt key g) :
    Fits bcrypt { key with status := .REVOKED } g.revoke :=
  ⟨h.userId, h.compare, h.keyPrefix, by simp [Grant.revoke], h.expiresAt⟩

/-- A key is valid exactly if what was handed out opens. -/
theorem fits_opens {key : ApiKey} {g : Grant} (h : Fits bcrypt key g) (apiKey : String)
    (now : Int) :
    (bcrypt.compare apiKey key.keyHash && key.isValid now) = true ↔ g.opens apiKey now := by
  rw [Bool.and_eq_true, h.compare, ApiKey.isValid, Bool.and_eq_true, decide_eq_true_iff, h.status,
    ApiKey.isExpired, h.expiresAt, Grant.opens, Bool.not_eq_true', Bool.not_eq_true, eq_comm]

/-- For every key there is what was handed out. -/
theorem backed_grant (h : Backed bcrypt world gs) {id : Nat} {key : ApiKey}
    (hkey : world.apiKeys[id]? = some key) : ∃ g, gs[id]? = some g ∧ Fits bcrypt key g := by
  have hlt : id < gs.length := h.length ▸ (List.getElem?_eq_some_iff.mp hkey).1
  have hg := List.getElem?_eq_getElem hlt
  exact ⟨gs[id], hg, h.fits id key _ hkey hg⟩

/-- A key that is saved with what was handed out. -/
theorem backed_setApiKey (h : Backed bcrypt world gs) {id : Nat} {key : ApiKey}
    (hkey : world.apiKeys[id]? = some key) (key' : ApiKey) (huser : key'.userId = key.userId)
    (change : Grant → Grant)
    (hfits : ∀ g, Fits bcrypt key g → Fits bcrypt key' (change g)) :
    Backed bcrypt (world.setApiKey id key') (gs.modify id change) := by
  refine ⟨?_, fun id' k g hk hg => ?_, fun k hk => ?_⟩
  · rw [List.length_modify]
    exact List.length_set.trans h.length
  · rw [List.getElem?_modify] at hg
    change (world.apiKeys.set id key')[id']? = some k at hk
    obtain ⟨g', hg', rfl⟩ := Option.map_eq_some_iff.mp hg
    -- The key itself fits its changed grant, and the others are as they were.
    by_cases hsame : id = id'
    · subst hsame
      rw [List.getElem?_set_self (List.getElem?_eq_some_iff.mp hkey).1] at hk
      obtain rfl := Option.some.inj hk
      rw [if_pos rfl]
      exact hfits g' (h.fits id key g' hkey hg')
    · rw [List.getElem?_set_ne hsame] at hk
      rw [if_neg hsame]
      exact h.fits id' k g' hk hg'
  · rcases List.mem_or_eq_of_mem_set hk with hk | rfl
    · exact h.users k hk
    · rw [huser]
      exact h.users key (List.mem_of_getElem? hkey)

/-- A key that is new. -/
theorem backed_insert (h : Backed bcrypt world gs) {key : ApiKey} {g : Grant}
    (hfits : Fits bcrypt key g) (huser : key.userId < world.users.length) :
    Backed bcrypt { world with apiKeys := world.apiKeys ++ [key] } (gs ++ [g]) := by
  refine ⟨?_, fun id k g' hk hg => ?_, fun k hk => ?_⟩
  · simp [h.length]
  · change (world.apiKeys ++ [key])[id]? = some k at hk
    -- Either there is an old key in both places, or the new one.
    by_cases hlt : id < world.apiKeys.length
    · rw [List.getElem?_append_left hlt] at hk
      rw [List.getElem?_append_left (h.length ▸ hlt)] at hg
      exact h.fits id k g' hk hg
    · have hge := Nat.le_of_not_lt hlt
      rw [List.getElem?_append_right hge, List.getElem?_singleton] at hk
      rw [List.getElem?_append_right (h.length ▸ hge), List.getElem?_singleton] at hg
      have hsame : id = world.apiKeys.length := by
        by_contra hne
        rw [if_neg (by omega)] at hk
        cases hk
      rw [hsame, Nat.sub_self, if_pos rfl] at hk
      rw [hsame, h.length, Nat.sub_self, if_pos rfl] at hg
      cases hk
      cases hg
      exact hfits
  · rcases List.mem_append.mp hk with hk | hk
    · exact h.users k hk
    · rw [List.mem_singleton.mp hk]
      exact huser

/-- What only adds users or changes them. -/
def Kept (keys : List ApiKey) (n : Nat) (world : World) : Prop :=
  world.apiKeys = keys ∧ n ≤ world.users.length

theorem backed_kept (h : Backed bcrypt world gs) {world' : World}
    (hkept : Kept world.apiKeys world.users.length world') : Backed bcrypt world' gs := by
  obtain ⟨hkeys, husers⟩ := hkept
  refine ⟨hkeys ▸ h.length, ?_, fun key hkey => ?_⟩
  · rw [hkeys]
    exact h.fits
  · rw [hkeys] at hkey
    exact (h.users key hkey).trans_le husers

variable {keys : List ApiKey} {n : Nat}

theorem query_upholds {α : Type} {act : World → α × World}
    (h : ∀ s, Kept keys n s → Kept keys n (act s).2) :
    (query act).Upholds (Kept keys n) fun _ => True :=
  upholds_perform fun s hs => ⟨h s hs, trivial⟩

theorem register_upholds (dto : RegisterUserDto) (salt : String) :
    (register bcrypt dto salt).Upholds (Kept keys n) fun _ => True := by
  refine upholds_bind (query_upholds fun s hs => hs) fun existingUser _ => ?_
  refine upholds_bind (R := fun _ => True) (upholds_require fun _ => trivial) fun _ _ => ?_
  refine upholds_bind (query_upholds fun s hs => ⟨hs.1, ?_⟩) fun _ _ => trivial
  rw [List.length_append]
  exact hs.2.trans (Nat.le_add_right _ _)

theorem saveUser_upholds (id : Nat) (user : User) :
    (userRepository.save id user).Upholds (Kept keys n) fun _ => True := by
  refine query_upholds fun s hs => ⟨hs.1, ?_⟩
  change n ≤ (s.users.set id user).length
  rw [List.length_set]
  exact hs.2

theorem login_upholds (dto : LoginUserDto) (now : Int) :
    (login bcrypt dto now).Upholds (Kept keys n) fun _ => True := by
  refine upholds_bind (query_upholds fun s hs => hs) fun found _ => ?_
  refine upholds_bind (R := fun _ => True) (upholds_demand fun _ _ => trivial) fun row _ => ?_
  refine upholds_bind (R := fun _ => True) (upholds_require fun _ => trivial) fun _ _ => ?_
  refine upholds_bind (query_upholds fun s hs => hs) fun isPasswordValid _ => ?_
  cases isPasswordValid with
  | true => exact upholds_bind (saveUser_upholds _ _) fun _ _ => trivial
  | false => exact upholds_bind (saveUser_upholds _ _) fun _ _ => trivial

theorem kept_of_upholds {α : Type} {p : Service α}
    (hp : p.Upholds (Kept world.apiKeys world.users.length) fun _ => True) :
    Kept world.apiKeys world.users.length (p.eval world).2 :=
  ((ensures_false_iff p world _).mp (ensures_of_upholds hp ⟨rfl, le_rfl⟩)).1

/-! ### Runs -/

/-- Accounts are registered and used without any key changing. -/
theorem step_accounts {α : Type} {p : Service α} {f : α → Answer}
    (hp : p.Upholds (Kept world.apiKeys world.users.length) fun _ => True)
    (h : Backed bcrypt world gs) :
    Backed bcrypt ((do return f (← p) : Service Answer).eval world).2 gs :=
  backed_kept h (kept_of_upholds (upholds_bind hp fun _ _ => trivial))

/-- What is compared are the keys that begin as the text does. -/
theorem mem_rows {apiKey : String} {order : Nat → Nat} {row : ApiKey × Nat} :
    row ∈ (world.keysOf (keyPrefixOf apiKey)).insertionSort
        (fun row row' => order row.2 ≤ order row'.2) ↔
      world.apiKeys[row.2]? = some row.1 ∧ row.1.keyPrefix = keyPrefixOf apiKey := by
  rw [List.mem_insertionSort, World.keysOf, List.mem_filter, List.mem_zipIdx_iff_getElem?,
    decide_eq_true_iff]

/-- Either what was handed out opens, and its key is counted, or nothing opens and
    nobody is let in. -/
theorem validate_cases (h : Backed bcrypt world gs) (headers : Headers) (order : Nat → Nat)
    (clock : Nat → Int) :
    (∃ (apiKey : String) (id : Nat) (key : ApiKey) (g : Grant) (user : User),
      headers.apiKey = some apiKey ∧ world.apiKeys[id]? = some key ∧
      gs[id]? = some g ∧ g.opens apiKey (clock id) ∧ world.users[g.userId]? = some user ∧
      (validate bcrypt headers order clock).eval world =
        (.ok ⟨g.userId, user.email, user.role⟩, world.setApiKey id (key.used (clock id)))) ∨
    ((∃ e, (validate bcrypt headers order clock).eval world = (.error e, world)) ∧
      ∀ apiKey, headers.apiKey = some apiKey →
        ∀ (id : Nat) (g : Grant), gs[id]? = some g → ¬g.opens apiKey (clock id)) := by
  unfold validate
  cases hheader : headers.apiKey with
  | none => exact Or.inr ⟨⟨_, rfl⟩, fun apiKey hnone => by cases hnone⟩
  | some apiKey =>
      have hkeys := @validateKeys_eval bcrypt world apiKey clock
        ((world.keysOf (keyPrefixOf apiKey)).insertionSort
          fun row row' => order row.2 ≤ order row'.2)
      have hfound : (validateApiKey bcrypt apiKey order clock).eval world = _ := hkeys
      split at hfound
      · next hnone =>
          refine Or.inr ⟨⟨"Invalid API key", eval_bind_ok hfound⟩, ?_⟩
          intro text htext id g hg hopens
          cases htext
          -- The key of what opens would have been found.
          have hlt : id < world.apiKeys.length := h.length ▸ (List.getElem?_eq_some_iff.mp hg).1
          have hkey := List.getElem?_eq_getElem hlt
          have hfits := h.fits id _ g hkey hg
          have hmem := (@mem_rows world apiKey order (world.apiKeys[id], id)).mpr
            ⟨hkey, hfits.keyPrefix.trans (congrArg keyPrefixOf hopens.1)⟩
          exact List.find?_eq_none.mp hnone _ hmem ((fits_opens hfits apiKey (clock id)).mpr hopens)
      · next key id hsome =>
          have hkey := (mem_rows.mp (List.mem_of_find?_eq_some hsome)).1
          obtain ⟨g, hg, hfits⟩ := backed_grant h hkey
          have hmatch : (bcrypt.compare apiKey key.keyHash && key.isValid (clock id)) = true :=
            @List.find?_some _ _ (key, id) _ hsome
          have hopens := (fits_opens hfits apiKey (clock id)).mp hmatch
          obtain ⟨user, huser⟩ : ∃ user, world.users[key.userId]? = some user :=
            ⟨_, List.getElem?_eq_getElem (h.users key (List.mem_of_getElem? hkey))⟩
          have howner : world.users[g.userId]? = some user := hfits.userId ▸ huser
          refine Or.inl ⟨apiKey, id, key, g, user, rfl, hkey, hg, hopens, howner, ?_⟩
          refine (eval_bind_ok hfound).trans ?_
          -- Counting a usage leaves the users as they are.
          have hfind : (query fun world => (world.users[key.userId]?, world)).eval
              (world.setApiKey id (key.used (clock id))) = _ :=
            congrArg (fun user => (Except.ok user, world.setApiKey id (key.used (clock id)))) huser
          refine (eval_bind_ok hfind).trans ?_
          rw [← hfits.userId]
          rfl

/-- Comparing a text with a hash tells whether it is the text of the key. -/
def Sound (bcrypt : Bcrypt) : Prop :=
  ∀ randomBytes salt apiKey,
    bcrypt.compare apiKey (bcrypt.hash (generateSecureApiKey randomBytes) saltRounds salt) = true ↔
      apiKey = generateSecureApiKey randomBytes

/-- The table says what the answers say. -/
theorem backed_step (hbcrypt : Sound bcrypt) (h : Backed bcrypt world gs) (call : Call) :
    Backed bcrypt (step bcrypt world call).2 (grant gs (call, (step bcrypt world call).1)) := by
  unfold step
  cases call with
  | register dto salt => exact step_accounts (register_upholds dto salt) h
  | login dto now => exact step_accounts (login_upholds dto now) h
  | createApiKey userId dto randomBytes salt =>
      rcases createApiKey_cases userId dto randomBytes salt with ⟨e, he⟩ | ⟨huser, hok⟩
      · rw [answer, bind_eq, eval_bind_error he]
        exact h
      · rw [answer, bind_eq, eval_bind_ok hok]
        exact backed_insert h ⟨rfl, hbcrypt randomBytes salt, rfl, by simp, rfl⟩ huser
  | revokeApiKey userId apiKeyId =>
      rcases revokeApiKey_cases userId apiKeyId with ⟨e, he⟩ | ⟨key, hkey, hok⟩
      · rw [answer, bind_eq, eval_bind_error he]
        exact h
      · rw [answer, bind_eq, eval_bind_ok hok]
        exact backed_setApiKey h hkey { key with status := .REVOKED } rfl Grant.revoke
          fun _ => fits_revoke
  | request headers order clock =>
      -- A request notes the use of the key, which changes no grant.
      rcases validate_cases h headers order clock with
        ⟨apiKey, keyId, key, g, user, -, hkey, -, -, -, hok⟩ | ⟨⟨e, he⟩, -⟩
      · rw [answer, bind_eq, eval_bind_ok hok]
        have hsame := backed_setApiKey h hkey (key.used (clock keyId)) rfl id
          fun g hfits => fits_used hfits (clock keyId)
        rwa [List.modify_id] at hsame
      · rw [answer, bind_eq, eval_bind_error he]
        exact h

/-- The answers of a run are in the table, whatever there was before. -/
theorem backed_after (hbcrypt : Sound bcrypt) (calls : List Call) (h : Backed bcrypt world gs) :
    Backed bcrypt (after (step bcrypt) calls world)
      ((answers (step bcrypt) calls world).foldl grant gs) := by
  induction calls generalizing world gs with
  | nil => exact h
  | cons call calls ih => exact ih (backed_step hbcrypt h call)

/-- A request that comes with the text of a key is let in as its user, unless the
    key was revoked or has expired, and no other request is. -/
structure Decided (gs : List Grant) (users : List User) (headers : Headers) (clock : Nat → Int)
    (result : Except String Answer) : Prop where
  served : ∀ (apiKey : String) (id : Nat) (g : Grant), headers.apiKey = some apiKey →
    gs[id]? = some g → g.opens apiKey (clock id) → ∃ identity, result = .ok (.identity identity)
  owner : ∀ identity, result = .ok (.identity identity) →
    ∃ (apiKey : String) (id : Nat) (g : Grant) (user : User), headers.apiKey = some apiKey ∧
      gs[id]? = some g ∧ g.opens apiKey (clock id) ∧ users[g.userId]? = some user ∧
      identity = ⟨g.userId, user.email, user.role⟩

/-- Every request is decided by the answers before it. -/
theorem request_decided (hbcrypt : Sound bcrypt) (calls : List Call) (headers : Headers)
    (order : Nat → Nat) (clock : Nat → Int) :
    Decided (grants (answers (step bcrypt) calls {})) (after (step bcrypt) calls {}).users headers
      clock (step bcrypt (after (step bcrypt) calls {}) (.request headers order clock)).1 := by
  have hempty : Backed bcrypt {} [] := ⟨rfl, by simp, by simp⟩
  have h := backed_after hbcrypt calls hempty
  change Backed bcrypt _ (grants (answers (step bcrypt) calls {})) at h
  generalize after (step bcrypt) calls {} = world at h ⊢
  generalize grants (answers (step bcrypt) calls {}) = gs at h ⊢
  unfold step
  -- Either something opens, and one of its keys is found, or nothing does.
  rcases validate_cases h headers order clock with
    ⟨apiKey, id, key, g, user, hheader, -, hg, hopens, huser, hok⟩ | ⟨⟨e, he⟩, hnone⟩
  · rw [answer, bind_eq, eval_bind_ok hok]
    refine ⟨fun _ _ _ _ _ _ => ⟨_, rfl⟩, fun identity hidentity => ?_⟩
    cases hidentity
    exact ⟨apiKey, id, g, user, hheader, hg, hopens, huser, rfl⟩
  · rw [answer, bind_eq, eval_bind_error he]
    constructor
    · intro apiKey id g hheader hg hopens
      exact absurd hopens (hnone apiKey hheader id g hg)
    · intro identity hidentity
      cases hidentity

end

/-! ### Tests -/

theorem plainBcrypt_sound : Sound plainBcrypt := by
  intro randomBytes salt apiKey
  exact decide_eq_true_iff.trans eq_comm

/-- The run of the witness. -/
def sampleCalls : List Call :=
  [.register { email := "ann@example.org", password := "secret" } "",
    .createApiKey 0 {} (Vector.replicate 32 7) "", .createApiKey 0 {} (Vector.replicate 32 8) "",
    .revokeApiKey 0 0]

/-- Of two keys, one was taken back. -/
theorem sampleCalls_decided :
    Decided (grants (answers (step plainBcrypt) sampleCalls {}))
      (after (step plainBcrypt) sampleCalls {}).users
      { authorization := some ("Bearer " ++ generateSecureApiKey (Vector.replicate 32 8)) }
      (fun _ => 0)
      (step plainBcrypt (after (step plainBcrypt) sampleCalls {})
        (.request { authorization := some ("Bearer " ++
          generateSecureApiKey (Vector.replicate 32 8)) } (fun n => n) fun _ => 0)).1 :=
  request_decided plainBcrypt_sound sampleCalls _ _ _

end Credentials

end Security

end SvmCourse
