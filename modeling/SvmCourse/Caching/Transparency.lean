import SvmCourse.Caching.QueryCache
import SvmCourse.Core.Machine
import SvmCourse.Core.Text

/-!
# Transparent Caching

A cached method returns what is kept under its name and its arguments. That is
what some call has read within the time to live. The arguments can be read off the
key, and so can the name, but not the service. Both services have a method to find
all rows and one to find a row by its id, so each of them may find what the other
one has kept.

As long as a read finds nothing that the other service has kept, it returns what
the same method would have read within the time to live.

## Main definitions

* `Read`: A method that is cached, with its arguments.
* `Call`, `Run`: Calls of both services, and what has been along a run.
* `Transparent`: What is promised of what a method returns.
* `OwnHit`: A read finds nothing that the other service has kept.

## Theorems

* `key_inj`: The key of a method determines it within a service.
* `read_hit`, `read_miss`: A read returns what it finds, or what is in the table.
* `reads_transparent`: Reads that find what their service has kept are transparent.
-/

namespace SvmCourse

namespace Caching

open Core Core.Prog Core.Machine

/-! ### Reads -/

/-- A method that is cached, with its arguments. -/
inductive Read where
  | accountsFindAll
  | accountsFindOne (id : String)
  | accountsFindByAddress (address : String)
  | tokensFindAll
  | tokensFindOne (id : String)
  | tokensFindByMint (mintAddress : String)
  deriving DecidableEq

namespace Read

/-- The service that a read asks. -/
def service : Read → ServiceName
  | .accountsFindAll | .accountsFindOne _ | .accountsFindByAddress _ => .AccountsService
  | .tokensFindAll | .tokensFindOne _ | .tokensFindByMint _ => .TokensService

/-- In seconds. -/
def ttl : Read → Nat
  | .accountsFindAll | .tokensFindAll => 300
  | .accountsFindOne _ | .accountsFindByAddress _ | .tokensFindOne _ | .tokensFindByMint _ => 600

/-- The name of the method, as it stands in the key. -/
def propertyKey : Read → String
  | .accountsFindAll | .tokensFindAll => "findAll"
  | .accountsFindOne _ | .tokensFindOne _ => "findOne"
  | .accountsFindByAddress _ => "findByAddress"
  | .tokensFindByMint _ => "findByMint"

/-- The arguments, as they stand in the key. -/
def args : Read → List String
  | .accountsFindAll | .tokensFindAll => []
  | .accountsFindOne a | .accountsFindByAddress a | .tokensFindOne a | .tokensFindByMint a => [a]

/-- The cached read. -/
def program : Read → Service Value
  | .accountsFindAll => AccountsService.findAll
  | .accountsFindOne id => AccountsService.findOne id
  | .accountsFindByAddress address => AccountsService.findByAddress address
  | .tokensFindAll => TokensService.findAll
  | .tokensFindOne id => TokensService.findOne id
  | .tokensFindByMint mintAddress => TokensService.findByMint mintAddress

/-- The method without the cache. -/
def method : Read → Service Value
  | .accountsFindAll => accountsRepository.find
  | .accountsFindOne id => accountsRepository.findOne fun account => account.id = id
  | .accountsFindByAddress address =>
    accountsRepository.findOne fun account => account.address = address
  | .tokensFindAll => tokensRepository.find
  | .tokensFindOne id => tokensRepository.findOne fun token => token.id = id
  | .tokensFindByMint mintAddress =>
    tokensRepository.findOne fun token => token.mintAddress = mintAddress

/-- What the method reads from its own table. -/
def value (world : World) : Read → Value
  | .accountsFindAll => .rows (world.accounts.map .account)
  | .accountsFindOne id =>
    .ofOption ((world.accounts.find? fun account => account.id = id).map .account)
  | .accountsFindByAddress address =>
    .ofOption ((world.accounts.find? fun account => account.address = address).map .account)
  | .tokensFindAll => .rows (world.tokens.map .token)
  | .tokensFindOne id => .ofOption ((world.tokens.find? fun token => token.id = id).map .token)
  | .tokensFindByMint mintAddress =>
    .ofOption ((world.tokens.find? fun token => token.mintAddress = mintAddress).map .token)

/-- The key of a read. It does not name the service. -/
def key (read : Read) : String :=
  "query" ++ ":" ++ (read.propertyKey ++ ":" ++ Json.stringify read.args)

end Read

/-- What a read finds in the cache. -/
def World.found (world : World) (read : Read) : Option CacheEntry :=
  (world.entry read.key).filter fun entry => entry.value ≠ .null

theorem program_eq (read : Read) :
    read.program = queryCache read.service read.ttl read.propertyKey read.args read.method := by
  cases read <;> rfl

theorem eval_method (read : Read) (world : World) :
    read.method.eval world = (.ok (read.value world), world) := by
  cases read <;> rfl

theorem not_mem_propertyKey (read : Read) : ':' ∉ read.propertyKey.toList := by
  have hnames : ∀ name ∈ ["findAll", "findOne", "findByAddress", "findByMint"],
      ':' ∉ name.toList := by decide
  refine hnames _ ?_
  cases read <;> simp [Read.propertyKey]

/-- The key of a method and its arguments determines it within a service. -/
theorem key_inj {read read' : Read} (hservice : read.service = read'.service)
    (h : read.key = read'.key) : read = read' := by
  have hlists := congrArg String.toList h
  have hcolon : (":" : String).toList = [':'] := rfl
  simp only [Read.key, String.toList_append, List.append_cancel_left_eq, List.append_assoc,
    hcolon, List.singleton_append] at hlists
  obtain ⟨hname, hjson⟩ :=
    split_inj (not_mem_propertyKey read) (not_mem_propertyKey read') (List.cons.inj hlists).2
  -- The name has no separator, so what follows it are the arguments.
  have hargs := Json.stringify_inj (String.toList_inj.mp hjson)
  have hkey := String.toList_inj.mp hname
  cases read <;> cases read' <;>
    simp_all [Read.service, Read.propertyKey, Read.args]

/-! ### Calls -/

/-- The calls of a run: time passes, rows are written, or something is read. -/
inductive Call where
  | pass (milliseconds : Nat)
  | createAccount (uuid : String) (accountData : AccountData)
  | updateAccount (id : String) (updateData : AccountData)
  | removeAccount (id : String)
  | createToken (uuid : String) (tokenData : TokenData)
  | updateToken (id : String) (updateData : TokenData)
  | removeToken (id : String)
  | read (read : Read)

namespace Call

/-- What a cached method returns, if one is called. -/
def program : Call → Service (Option Value)
  | .pass milliseconds => do
    query fun world => ((), { world with now := world.now + milliseconds })
    pure none
  | .createAccount uuid accountData => do
    AccountsService.create uuid accountData
    pure none
  | .updateAccount id updateData => do
    let account ← AccountsService.update id updateData
    pure (some account)
  | .removeAccount id => do
    AccountsService.remove id
    pure none
  | .createToken uuid tokenData => do
    TokensService.create uuid tokenData
    pure none
  | .updateToken id updateData => do
    let token ← TokensService.update id updateData
    pure (some token)
  | .removeToken id => do
    TokensService.remove id
    pure none
  | .read r => do
    let value ← r.program
    pure (some value)

/-- The cached method that is called, also by an update. -/
def reads : Call → Option Read
  | .read r => some r
  | .updateAccount id _ => some (.accountsFindOne id)
  | .updateToken id _ => some (.tokensFindOne id)
  | .pass _ | .createAccount _ _ | .removeAccount _ | .createToken _ _ | .removeToken _ => none

/-- An update that is not refused comes to its read. -/
def comesToRead (world : World) : Call → Bool
  | .updateAccount id updateData => (accountColumns.update id updateData world.accounts).isOk
  | .updateToken id updateData => (tokenColumns.update id updateData world.tokens).isOk
  | .pass _ | .createAccount _ _ | .removeAccount _ | .createToken _ _ | .removeToken _
  | .read _ => true

/-- The world in which the read of a call is made, which for an update is the one
    with the new table. -/
def written (world : World) : Call → World
  | .updateAccount id updateData =>
    match accountColumns.update id updateData world.accounts with
    | .ok accounts => { world with accounts }
    | .error _ => world
  | .updateToken id updateData =>
    match tokenColumns.update id updateData world.tokens with
    | .ok tokens => { world with tokens }
    | .error _ => world
  -- Only the two updates read again afterwards, so only what they write matters to a
  -- read.
  | .pass _ | .createAccount _ _ | .removeAccount _ | .createToken _ _ | .removeToken _
  | .read _ => world

end Call

/-- The world, and what it has been before each call of a run. -/
structure Run where
  world : World
  past : List World := []

/-- What there has been, up to now. -/
def Run.instants (run : Run) : List World := run.past ++ [run.world]

/-- Run the call, and note the world it ran in. -/
def step (run : Run) (call : Call) : Except String (Option Value) × Run :=
  ((call.program.eval run.world).1, ⟨(call.program.eval run.world).2, run.past ++ [run.world]⟩)

/-- The service that a row belongs to. -/
def Row.service : Row → ServiceName
  | .account _ => .AccountsService
  | .token _ => .TokensService

/-- The value belongs to that service. -/
def Value.service (name : ServiceName) : Value → Prop
  | .null => True
  | .row found => found.service = name
  | .rows found => ∀ r ∈ found, r.service = name

/-- What a cached method returns is what it would have read from its own table at an
    instant within the time to live. It has no row of the other table. -/
structure Fresh (read : Read) (value : Value) (run : Run) : Prop where
  recent : ∃ world ∈ run.instants,
    run.world.now ≤ world.now + read.ttl * 1000 ∧ value = read.value world
  own : value.service read.service

/-- What the call reads is fresh. -/
def Transparent (call : Call) (answer : Except String (Option Value)) (run : Run) : Prop :=
  ∀ read value, call.reads = some read → answer = .ok (some value) → Fresh read value run

/-- A read finds nothing that the other service has kept. -/
def OwnHit (call : Call) (run : Run) : Prop :=
  ∀ read ∈ call.reads, call.comesToRead run.world = true →
    ∀ entry ∈ run.world.entry read.key, entry.value ≠ .null → entry.writer = read.service

instance (call : Call) (run : Run) : Decidable (OwnHit call run) :=
  inferInstanceAs (Decidable (∀ read ∈ call.reads, _ → ∀ entry ∈ _, _ → _))

/-! ### What calls do -/

section

variable {world world' : World} {read : Read} {call : Call} {run : Run}

/-- The world after a value was kept. -/
def World.kept (world : World) (read : Read) : World :=
  { world with
    redis := Function.update world.redis read.key
      (some ⟨read.value world, world.now + read.ttl * 1000, read.service⟩) }

/-- A null in the cache is as good as nothing. -/
theorem get_found (read : Read) (world : World) :
    (cacheService.get read.key).eval world =
      (.ok ((world.found read).map CacheEntry.value), world) := by
  have hfilter : ((world.entry read.key).map CacheEntry.value).filter (· ≠ .null) =
      (world.found read).map CacheEntry.value := by
    rw [World.found, Option.filter_map]
    rfl
  exact congrArg (fun found => (Except.ok found, world)) hfilter

/-- A read returns what it finds. -/
theorem read_hit {entry : CacheEntry} (h : world.found read = some entry) :
    read.program.eval world = (.ok entry.value, world) := by
  have hget := get_found read world
  rw [h] at hget
  rw [program_eq]
  exact eval_bind_ok hget

/-- A read that finds nothing returns what is in the table, and keeps that. -/
theorem read_miss (h : world.found read = none) :
    read.program.eval world = (.ok (read.value world), world.kept read) := by
  have hget := get_found read world
  rw [h] at hget
  rw [program_eq]
  exact (eval_bind_ok hget).trans (eval_bind_ok (eval_method read world))

/-- A table is replaced, or that is refused. -/
theorem replace_cases {R : Type} (get : World → List R) (set : World → List R → World)
    (change : List R → Except String (List R)) (world : World) :
    (∃ rows, change (get world) = .ok rows ∧
      (replace get set change).eval world = (.ok (), set world rows)) ∨
    (∃ message, change (get world) = .error message ∧
      (replace get set change).eval world = (.error message, world)) := by
  cases hchange : change (get world) with
  | ok rows =>
      refine .inl ⟨rows, rfl, ?_⟩
      rw [replace, query, bind_eq, eval_bind, eval_perform, hchange]
      rfl
  | error message =>
      refine .inr ⟨message, rfl, ?_⟩
      rw [replace, query, bind_eq, eval_bind, eval_perform, hchange]
      rfl

section

variable {R : Type} {get : World → List R} {set : World → List R → World}

/-- Replacing a table leaves the cache alone and returns no value. -/
theorem replaced_quietly (hredis : ∀ world rows, (set world rows).redis = world.redis)
    (change : List R → Except String (List R)) (world : World) :
    ∃ answer world', ((replace get set change).bind
        fun _ => (pure none : Service (Option Value))).eval world = (answer, world') ∧
      world'.redis = world.redis ∧ ∀ value, answer ≠ .ok (some value) := by
  rcases replace_cases get set change world with ⟨rows, -, hdone⟩ | ⟨message, -, hdone⟩
  · exact ⟨_, _, eval_bind_ok hdone, hredis world rows, fun _ h => nomatch h⟩
  · exact ⟨_, _, eval_bind_error hdone, rfl, fun _ h => nomatch h⟩

/-- An update that is refused changes nothing. One that is not comes to its read in
    the world with the new table. -/
theorem updated_cases (change : List R → Except String (List R)) (program : Service Value)
    (world : World) :
    (∃ message, change (get world) = .error message ∧
      ((replace get set change).bind fun _ => program).eval world = (.error message, world)) ∨
    (∃ rows, change (get world) = .ok rows ∧ ∀ value world',
      program.eval (set world rows) = (.ok value, world') →
        ((replace get set change).bind fun _ => program).eval world = (.ok value, world')) := by
  rcases replace_cases get set change world with ⟨rows, hrows, hdone⟩ | ⟨message, hmessage, hdone⟩
  · exact .inr ⟨rows, hrows, fun value world' hread => (eval_bind_ok hdone).trans hread⟩
  · exact .inl ⟨message, hmessage, eval_bind_error hdone⟩

end

theorem written_redis (call : Call) (world : World) : (call.written world).redis = world.redis := by
  cases call <;> simp only [Call.written] <;> split <;> rfl

theorem written_now (call : Call) (world : World) : (call.written world).now = world.now := by
  cases call <;> simp only [Call.written] <;> split <;> rfl

/-- The cache is asked at the instant of the call. -/
theorem found_written (call : Call) (world : World) (read : Read) :
    (call.written world).found read = world.found read := by
  rw [World.found, World.found, World.entry, World.entry, written_redis, written_now]

/-- A call comes to no read and leaves the cache alone, or it comes to one, after the
    table was written. -/
theorem call_cases (call : Call) (world : World) :
    (∃ answer world', call.program.eval world = (answer, world') ∧
      world'.redis = world.redis ∧ (∀ value, answer ≠ .ok (some value)) ∧
      ∀ read ∈ call.reads, call.comesToRead world = false) ∨
    (∃ read, call.reads = some read ∧ call.comesToRead world = true ∧
      ∀ value world', read.program.eval (call.written world) = (.ok value, world') →
        call.program.eval world = (.ok (some value), world')) := by
  have haccounts : ∀ (world : World) accounts, { world with accounts }.redis = world.redis :=
    fun _ _ => rfl
  have htokens : ∀ (world : World) tokens, { world with tokens }.redis = world.redis :=
    fun _ _ => rfl
  have hquiet : ∀ {answer : Except String (Option Value)} {world' : World},
      call.reads = none → call.program.eval world = (answer, world') ∧
        world'.redis = world.redis ∧ (∀ value, answer ≠ .ok (some value)) →
      ∃ answer world', call.program.eval world = (answer, world') ∧
        world'.redis = world.redis ∧ (∀ value, answer ≠ .ok (some value)) ∧
        ∀ read ∈ call.reads, call.comesToRead world = false := by
    rintro answer world' hreads ⟨hdone, hredis, hnot⟩
    refine ⟨answer, world', hdone, hredis, hnot, fun read hread => ?_⟩
    rw [hreads] at hread
    exact nomatch hread
  cases call with
  | pass milliseconds => exact .inl (hquiet rfl ⟨rfl, rfl, fun _ h => nomatch h⟩)
  | createAccount uuid accountData =>
      rcases replaced_quietly haccounts (accountColumns.save uuid accountData) world with
        ⟨_, _, hdone⟩
      exact .inl (hquiet rfl hdone)
  | removeAccount id =>
      rcases replaced_quietly haccounts (fun accounts => .ok (accountColumns.delete id accounts))
        world with ⟨_, _, hdone⟩
      exact .inl (hquiet rfl hdone)
  | createToken uuid tokenData =>
      rcases replaced_quietly htokens (tokenColumns.save uuid tokenData) world with ⟨_, _, hdone⟩
      exact .inl (hquiet rfl hdone)
  | removeToken id =>
      rcases replaced_quietly htokens (fun tokens => .ok (tokenColumns.delete id tokens))
        world with ⟨_, _, hdone⟩
      exact .inl (hquiet rfl hdone)
  | updateAccount id updateData =>
      rcases updated_cases (accountColumns.update id updateData) (AccountsService.findOne id)
        world with
        ⟨message, hmessage, hrefused⟩ | ⟨rows, hrows, hdone⟩
      · refine .inl ⟨_, _, eval_bind_error hrefused, rfl, fun _ h => (nomatch h), fun _ _ => ?_⟩
        rw [Call.comesToRead, hmessage]
        rfl
      · -- The table has changed, and the read of the update is cached like any other.
        have hwritten : (Call.updateAccount id updateData).written world =
            { world with accounts := rows } := by
          simp only [Call.written, hrows]
        refine .inr ⟨.accountsFindOne id, rfl, ?_, fun value world' hread => ?_⟩
        · rw [Call.comesToRead, hrows]
          rfl
        · rw [hwritten] at hread
          exact eval_bind_ok (hdone value world' hread)
  | updateToken id updateData =>
      rcases updated_cases (tokenColumns.update id updateData) (TokensService.findOne id)
        world with
        ⟨message, hmessage, hrefused⟩ | ⟨rows, hrows, hdone⟩
      · refine .inl ⟨_, _, eval_bind_error hrefused, rfl, fun _ h => (nomatch h), fun _ _ => ?_⟩
        rw [Call.comesToRead, hmessage]
        rfl
      · have hwritten : (Call.updateToken id updateData).written world =
            { world with tokens := rows } := by
          simp only [Call.written, hrows]
        refine .inr ⟨.tokensFindOne id, rfl, ?_, fun value world' hread => ?_⟩
        · rw [Call.comesToRead, hrows]
          rfl
        · rw [hwritten] at hread
          exact eval_bind_ok (hdone value world' hread)
  | read r => exact .inr ⟨r, rfl, rfl, fun value world' hread => eval_bind_ok hread⟩

/-! ### Runs -/

/-- What is in the cache has been read by the service that has put it there, the time
    to live before it expires. -/
def Kept (run : Run) : Prop :=
  ∀ key entry, run.world.redis key = some entry → ∃ read : Read, read.key = key ∧
    read.service = entry.writer ∧ ∃ world ∈ run.instants,
      entry.expiresAt = world.now + read.ttl * 1000 ∧ entry.value = read.value world

theorem value_kept (read r : Read) (world : World) :
    read.value (world.kept r) = read.value world := by
  cases read <;> rfl

theorem service_ofOption {R : Type} {row : R → Row} {name : ServiceName}
    (h : ∀ r, (row r).service = name) (found : Option R) :
    (Value.ofOption (found.map row)).service name := by
  cases found with
  | none => exact trivial
  | some r => exact h r

/-- A method reads rows of its own table. -/
theorem service_value (read : Read) (world : World) :
    (read.value world).service read.service := by
  have haccounts : ∀ account, (Row.account account).service = .AccountsService := fun _ => rfl
  have htokens : ∀ token, (Row.token token).service = .TokensService := fun _ => rfl
  cases read with
  | accountsFindAll => exact List.forall_mem_map.mpr fun account _ => haccounts account
  | accountsFindOne id => exact service_ofOption haccounts _
  | accountsFindByAddress address => exact service_ofOption haccounts _
  | tokensFindAll => exact List.forall_mem_map.mpr fun token _ => htokens token
  | tokensFindOne id => exact service_ofOption htokens _
  | tokensFindByMint mintAddress => exact service_ofOption htokens _

theorem mem_instants_step (call : Call) (h : world ∈ run.instants) :
    world ∈ (step run call).2.instants :=
  List.mem_append_left _ h

/-- A cache that is left alone is still in order. -/
theorem kept_of_same (h : Kept run) (hsame : (step run call).2.world.redis = run.world.redis) :
    Kept (step run call).2 := by
  intro key entry hentry
  rw [hsame] at hentry
  obtain ⟨read, hkey, hservice, world, hworld, hrest⟩ := h key entry hentry
  exact ⟨read, hkey, hservice, world, mem_instants_step call hworld, hrest⟩

/-- What the service has kept is fresh. -/
theorem fresh_of_hit {entry : CacheEntry} (h : Kept run)
    (hentry : run.world.entry read.key = some entry) (howner : entry.writer = read.service)
    (hnow : (step run call).2.world.now = run.world.now) :
    Fresh read entry.value (step run call).2 := by
  obtain ⟨hstored, hlasts⟩ := Option.filter_eq_some_iff.mp hentry
  obtain ⟨read', hkey, hservice, world, hworld, hexpires, hvalue⟩ := h read.key entry hstored
  -- Of the own service, so the key is that of the same read.
  obtain rfl := key_inj (hservice.trans howner) hkey
  refine ⟨⟨world, mem_instants_step call hworld, ?_, hvalue⟩, ?_⟩
  · -- It has not expired, so it was read within the time to live.
    rw [hnow, ← hexpires]
    exact Nat.le_of_lt (of_decide_eq_true hlasts)
  · rw [hvalue]
    exact service_value read' world

/-- What is read from the table is fresh. -/
theorem fresh_now (read : Read) (run : Run) : Fresh read (read.value run.world) run where
  recent := ⟨run.world, List.mem_append_right _ (List.mem_singleton_self _),
    Nat.le_add_right .., rfl⟩
  own := service_value read run.world

/-- A cache that keeps what was just read from the table is still in order. -/
theorem kept_of_miss {between : World} (h : Kept run)
    (hstep : (step run call).2.world = between.kept read)
    (hredis : between.redis = run.world.redis) : Kept (step run call).2 := by
  intro key entry hentry
  have hkept : Function.update run.world.redis read.key
      (some ⟨read.value between, between.now + read.ttl * 1000, read.service⟩) key =
        some entry := by
    rw [hstep] at hentry
    rw [← hredis]
    exact hentry
  by_cases hkey : key = read.key
  · -- The new entry was read from the table as it still is.
    subst hkey
    rw [Function.update_self] at hkept
    cases hkept
    have hlast : between.kept read ∈ (step run call).2.instants := by
      rw [← hstep]
      exact List.mem_append_right _ (List.mem_singleton_self _)
    exact ⟨read, rfl, rfl, between.kept read, hlast, rfl, (value_kept read read between).symm⟩
  · -- The other entries were there before.
    rw [Function.update_of_ne hkey] at hkept
    obtain ⟨read', hkey', hservice, world, hworld, hrest⟩ := h key entry hkept
    exact ⟨read', hkey', hservice, world, mem_instants_step call hworld, hrest⟩

theorem sound_step (h : Kept run) (hown : OwnHit call run) :
    Transparent call (step run call).1 (step run call).2 ∧ Kept (step run call).2 := by
  rcases call_cases call run.world with
    ⟨answer, world', hdone, hredis, hnot, -⟩ | ⟨read, hreads, hcomes, hdone⟩
  · have hstep : step run call = (answer, ⟨world', run.past ++ [run.world]⟩) := by
      rw [step, hdone]
    have hsame : (step run call).2.world.redis = run.world.redis := by
      rw [hstep]
      exact hredis
    refine ⟨fun read value _ hanswer => ?_, kept_of_same h hsame⟩
    rw [hstep] at hanswer
    exact absurd hanswer (hnot value)
  · have hredis := written_redis call run.world
    cases hfound : (call.written run.world).found read with
    | some entry =>
        -- The read finds what is in the cache.
        have hstep : step run call =
            (.ok (some entry.value), ⟨call.written run.world, run.past ++ [run.world]⟩) := by
          rw [step, hdone _ _ (read_hit hfound)]
        have hsame : (step run call).2.world.redis = run.world.redis := by
          rw [hstep]
          exact hredis
        have hnow : (step run call).2.world.now = run.world.now := by
          rw [hstep]
          exact written_now call run.world
        rw [found_written] at hfound
        rcases Option.filter_eq_some_iff.mp hfound with ⟨hentry, hne⟩
        refine ⟨fun read' value hread' hanswer => ?_, kept_of_same h hsame⟩
        obtain rfl := Option.some_inj.mp (hreads.symm.trans hread')
        have howner := hown read hreads hcomes entry hentry (of_decide_eq_true hne)
        rw [hstep] at hanswer
        cases hanswer
        exact fresh_of_hit h hentry howner hnow
    | none =>
        -- The read finds nothing, and keeps what is in the table.
        have hstep : step run call = (.ok (some (read.value (call.written run.world))),
            ⟨(call.written run.world).kept read, run.past ++ [run.world]⟩) := by
          rw [step, hdone _ _ (read_miss hfound)]
        refine ⟨fun read' value hread' hanswer => ?_, kept_of_miss h (by rw [hstep]) hredis⟩
        obtain rfl := Option.some_inj.mp (hreads.symm.trans hread')
        rw [hstep] at hanswer ⊢
        cases hanswer
        rw [← value_kept read read (call.written run.world)]
        exact fresh_now read ⟨(call.written run.world).kept read, _⟩

end

/-- Beginning with an empty cache, reads that find what their own service has kept
    are transparent. -/
theorem reads_transparent {world : World} {calls : List Call}
    (hempty : ∀ key, world.redis key = none)
    (hown : Along step (fun call before _ _ => OwnHit call before) calls { world }) :
    Along step (fun call _ answer later => Transparent call answer later) calls { world } := by
  have hstart : Kept { world } := by
    intro key entry hentry
    exact nomatch (hempty key).symm.trans hentry
  exact along_invariant (fun _ _ hcall hrun => sound_step hrun hcall) hstart hown

/-- Both services find rows by their ids, and tokens by their mints, from one cache. All
    accounts are found before and after one is created, and all tokens when the cache
    has expired. -/
def sampleReads : List Call :=
  [.read .accountsFindAll, .createAccount "1" { address := some "a" }, .read .accountsFindAll,
    .createToken "2" {
      mintAddress := some "m", name := some "Token", symbol := some "TKN", decimals := some 9 },
    .read (.accountsFindOne "1"), .read (.tokensFindOne "2"), .read (.tokensFindByMint "m"),
    .removeToken "2", .read (.tokensFindOne "2"), .pass 300001, .read .tokensFindAll,
    .read (.tokensFindByMint "m"), .updateAccount "1" { balance := some 5 }]

theorem sampleReads_transparent :
    Along step (fun call _ answer later => Transparent call answer later) sampleReads
      { world := {} } :=
  reads_transparent (fun _ => rfl) (by decide +kernel)

/-- Finding all tokens after all accounts were found. -/
theorem accounts_for_tokens : ¬Along step (fun call _ answer later => Transparent call answer later)
    [.createAccount "1" { address := some "a" }, .read .accountsFindAll, .read .tokensFindAll]
    { world := {} } := by
  intro h
  -- Both methods are called `findAll` and have no arguments.
  have hanswer : (step (after step [.createAccount "1" { address := some "a" },
      .read .accountsFindAll] { world := {} }) (.read .tokensFindAll)).1 =
        .ok (some (.rows [.account { id := "1", address := "a" }])) := by
    decide +kernel
  have hfresh := h.2.2.1 .tokensFindAll _ rfl hanswer
  exact nomatch hfresh.own _ (List.mem_singleton_self _)

end Caching

end SvmCourse
