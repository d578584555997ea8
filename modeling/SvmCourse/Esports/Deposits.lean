import SvmCourse.Core.Sched
import SvmCourse.Esports.System

/-!
# Deposits Are Credited Once

A deposit names the signature of the transfer it is for. It reads the wallet,
records the signature, and then saves the wallet with the amount on top. Nothing
on the way looks for the signature among those that are recorded, so a transfer
is credited as often as it is named.

The calls made at the same time are a schedule. While every deposit that is about
to be recorded finds its signature unrecorded, a signature is credited by at most
one call, and a call whose signature others have recorded changes nothing. And a
schedule in which all calls have returned has credited every signature once only
if that was so.

## Main definitions

* `Db.records`: The signature is recorded with a deposit.
* `recordsFresh`: A deposit that is about to be recorded is a new one.
* `CreditedOnce`: No signature is credited twice.
* `DepositPhase`: What is left of a deposit.

## Theorems

* `phase_next`: What the accesses of a deposit do.
* `move_upholds`: Every row of a signature is one of a call.
* `deposits_creditedOnce`: When signatures are credited once.
-/

namespace SvmCourse

namespace Esports

open Core Core.Prog Core.Machine Core.Sched

/-- What a deposit does, access by access. -/
def DepositRequest.program (request : DepositRequest) : Service Unit := discard (deposit request)

/-- Deposits that run at the same time. -/
abbrev DepositPool := Pool Db ServiceError DepositRequest

/-- A row of a deposit with the signature. -/
def WalletTransaction.deposits (signature : String) (tx : WalletTransaction) : Bool :=
  tx.type = .DEPOSIT && tx.signature = some signature

/-- A deposit with the signature is recorded. -/
def Db.records (db : Db) (signature : String) : Bool :=
  db.walletTxs.any fun tx => tx.deposits signature

/-- A deposit that is about to be recorded finds its signature unrecorded. -/
def recordsFresh (m : Move DepositRequest) (pool : DepositPool) : Bool :=
  match m with
  | .start _ => true
  | .access i => (pool.threads[i]?).all fun thread =>
      !(thread.made = 1 && thread.rest.unfinished) || !pool.store.records thread.call.signature

/-- The calls that have credited the signature. -/
def successfulCalls (signature : String) (pool : DepositPool) : Nat :=
  pool.threads.countP fun thread =>
    thread.call.signature = signature && (thread.rest.outcome.any Except.toBool)

/-- No signature is credited by two calls, or by one when it was recorded before
    the calls were made. -/
structure CreditedOnce (s : Db) (pool : DepositPool) : Prop where
  once : ∀ signature, successfulCalls signature pool ≤ 1
  recorded : ∀ signature, s.records signature = true → successfulCalls signature pool = 0

/-- What changes the store is the access of a deposit that has recorded its
    signature itself, or finds it unrecorded. And when it changes a wallet, the
    deposit has succeeded by it. -/
def OwnSignature (pool pool' : DepositPool) : Prop :=
  pool'.store = pool.store ∨ ∃ before thread thread' after,
    pool.threads = before ++ thread :: after ∧ pool'.threads = before ++ thread' :: after ∧
      thread'.call = thread.call ∧
      (2 ≤ thread.made ∨ pool.store.records thread.call.signature = false) ∧
      (pool'.store.wallets = pool.store.wallets ∨ thread'.rest.outcome = some (.ok ()))

/-! ### One deposit -/

namespace DepositRequest

/-- The row that a deposit writes. -/
def row (request : DepositRequest) (wallet : PlayerWallet) : WalletTransaction where
  walletId := wallet.id
  type := .DEPOSIT
  amount := request.amount
  signature := some request.signature
  status := .COMPLETED

/-- The wallet that a deposit saves. -/
def credited (request : DepositRequest) (wallet : PlayerWallet) : PlayerWallet :=
  { wallet with
    availableBalance := wallet.availableBalance + request.amount
    totalDeposited := wallet.totalDeposited + request.amount }

/-- What is left when the deposit is recorded. -/
def saving (request : DepositRequest) (wallet : PlayerWallet) : Service Unit :=
  query fun db => ((), db.withWallet (request.credited wallet))

/-- What is left when the wallet is read. -/
def recording (request : DepositRequest) (wallet : PlayerWallet) : Service Unit :=
  (txRepository.insert (request.row wallet)).bind fun _ => request.saving wallet

end DepositRequest

/-- What is left of a deposit after so many accesses. -/
inductive DepositPhase (request : DepositRequest) : Nat → Service Unit → Prop
  | reading : DepositPhase request 0 request.program
  | refused (e : ServiceError) : DepositPhase request 1 (.raise e)
  | recording (wallet : PlayerWallet) : DepositPhase request 1 (request.recording wallet)
  | saving (wallet : PlayerWallet) : DepositPhase request 2 (request.saving wallet)
  | done : DepositPhase request 3 (.done ())

section Phases

variable {request : DepositRequest} {made : Nat} {rest : Service Unit}

/-- A deposit reads, records its signature, and saves the wallet. -/
theorem phase_next (h : DepositPhase request made rest) (hunfinished : rest.unfinished = true)
    (db : Db) :
    (made = 0 ∧ (rest.next db).2 = db ∧ DepositPhase request 1 (rest.next db).1) ∨
    (∃ wallet, made = 1 ∧
      (rest.next db).2 = { db with walletTxs := db.walletTxs ++ [request.row wallet] } ∧
      DepositPhase request 2 (rest.next db).1) ∨
    ∃ wallet, made = 2 ∧ (rest.next db).2 = db.withWallet (request.credited wallet) ∧
      (rest.next db).1 = .done () := by
  cases h with
  | reading =>
      refine Or.inl ⟨rfl, rfl, ?_⟩
      simp only [DepositRequest.program, discard, deposit, moveFunds, getWallet,
        walletRepository.findOne, query, perform, bind_eq, Prog.bind, next]
      -- A wallet that is missing or not active ends the call.
      cases db.wallets.findOne request.playerId with
      | none => exact DepositPhase.refused _
      | some wallet =>
          simp only [demand, Prog.bind]
          cases wallet.isActive with
          | false => exact DepositPhase.refused _
          | true => exact DepositPhase.recording wallet
  | refused e => cases hunfinished
  | recording wallet => exact Or.inr (Or.inl ⟨wallet, rfl, rfl, DepositPhase.saving wallet⟩)
  | saving wallet => exact Or.inr (Or.inr ⟨wallet, rfl, rfl, rfl⟩)
  | done => cases hunfinished

/-- A deposit succeeds only after it was recorded. -/
theorem phase_made (h : DepositPhase request made rest)
    (hok : rest.outcome.any Except.toBool = true) :
    2 ≤ made := by
  cases h with
  | reading => exact nomatch hok
  | refused e => exact nomatch hok
  | recording wallet => exact nomatch hok
  | saving wallet => exact nomatch hok
  | done => omega

/-- A recorded deposit that has returned has succeeded. -/
theorem phase_outcome (h : DepositPhase request made rest) (hmade : 2 ≤ made)
    (hfinished : rest.unfinished = false) : rest.outcome.any Except.toBool = true := by
  cases h with
  | reading => omega
  | refused e => omega
  | recording wallet => omega
  | saving wallet => exact nomatch hfinished
  | done => rfl

end Phases

/-! ### Many deposits -/

/-- The rows of a signature. -/
def Db.rowsOf (db : Db) (signature : String) : Nat :=
  db.walletTxs.countP fun tx => tx.deposits signature

/-- The calls that have recorded the signature. -/
def recordings (signature : String) (threads : List (Thread Db ServiceError DepositRequest)) :
    Nat :=
  threads.countP fun thread => thread.call.signature = signature && 2 ≤ thread.made

/-- Every call is in one of its phases, and every row of a signature was there
    before or is one of a call. -/
structure Upheld (s : Db) (pool : DepositPool) : Prop where
  phases : ∀ thread ∈ pool.threads, DepositPhase thread.call thread.made thread.rest
  rows : ∀ signature,
    pool.store.rowsOf signature = s.rowsOf signature + recordings signature pool.threads

section Deposits

variable {s db : Db} {pool : DepositPool} {signature : String}

theorem records_iff : db.records signature = true ↔ 0 < db.rowsOf signature := by
  rw [Db.records, Db.rowsOf, List.countP_pos_iff, List.any_eq_true]

theorem not_records_iff : db.records signature = false ↔ db.rowsOf signature = 0 := by
  rw [← Bool.not_eq_true, records_iff, Nat.not_lt, Nat.le_zero]

/-- A row counts for its own signature. -/
theorem rowsOf_insert (request : DepositRequest) (wallet : PlayerWallet) (db : Db)
    (signature : String) :
    ({ db with walletTxs := db.walletTxs ++ [request.row wallet] } : Db).rowsOf signature =
      db.rowsOf signature + if request.signature = signature then 1 else 0 := by
  rw [Db.rowsOf, Db.rowsOf, List.countP_append, List.countP_singleton]
  by_cases hsame : request.signature = signature <;>
    simp [WalletTransaction.deposits, DepositRequest.row, hsame]

theorem recordings_split (signature : String)
    (before after : List (Thread Db ServiceError DepositRequest))
    (thread : Thread Db ServiceError DepositRequest) :
    recordings signature (before ++ thread :: after) =
      recordings signature before + recordings signature after +
        if thread.call.signature = signature ∧ 2 ≤ thread.made then 1 else 0 := by
  rw [recordings, recordings, recordings, List.countP_append, List.countP_cons]
  simp only [Bool.and_eq_true, decide_eq_true_eq]
  omega

/-- An access counts when it is the one that records the signature. -/
theorem recordings_next (signature : String)
    (before after : List (Thread Db ServiceError DepositRequest)) (call : DepositRequest)
    (made : Nat) (rest rest' : Service Unit) :
    recordings signature (before ++ ⟨call, made + 1, rest'⟩ :: after) =
      recordings signature (before ++ ⟨call, made, rest⟩ :: after) +
        if call.signature = signature ∧ made = 1 then 1 else 0 := by
  rw [recordings_split, recordings_split]
  by_cases hsame : call.signature = signature
  · simp only [hsame, true_and]
    split <;> split <;> split <;> omega
  · simp only [hsame, false_and, if_false]

theorem upheld_start (h : Upheld s pool) (request : DepositRequest) :
    Upheld s { pool with
      threads := pool.threads ++ [Thread.begin DepositRequest.program request] } := by
  refine ⟨List.forall_mem_append.mpr ⟨h.phases, fun thread hmem => ?_⟩, fun signature => ?_⟩
  · rw [List.mem_singleton.mp hmem]
    exact DepositPhase.reading
  · rw [recordings_split]
    simpa [Thread.begin, recordings] using h.rows signature

/-- What the access of a deposit does among the others: it reads, or it records a
    signature, or it credits one that it has recorded. -/
theorem upheld_access {before after : List (Thread Db ServiceError DepositRequest)}
    {call : DepositRequest} {made : Nat} {rest : Service Unit}
    (h : Upheld s pool) (hthreads : pool.threads = before ++ ⟨call, made, rest⟩ :: after)
    (hunfinished : rest.unfinished = true) :
    Upheld s ⟨(rest.next pool.store).2,
        before ++ ⟨call, made + 1, (rest.next pool.store).1⟩ :: after⟩ ∧
      ((rest.next pool.store).2 = pool.store ∨
        made = 1 ∧ (rest.next pool.store).2.wallets = pool.store.wallets ∨
        2 ≤ made ∧ (rest.next pool.store).1.outcome = some (.ok ())) := by
  have hphases := h.phases
  have hrows := h.rows
  rw [hthreads] at hphases hrows
  obtain ⟨hbefore, hself, hafter⟩ := List.forall_mem_append.mp hphases |>.imp_right
    List.forall_mem_cons.mp
  have hall : ∀ {left : Service Unit}, DepositPhase call (made + 1) left → ∀ thread ∈
      before ++ ⟨call, made + 1, left⟩ :: after, DepositPhase thread.call thread.made thread.rest :=
    fun hleft => List.forall_mem_append.mpr ⟨hbefore, List.forall_mem_cons.mpr ⟨hleft, hafter⟩⟩
  rcases phase_next hself hunfinished pool.store with ⟨rfl, hstore, hleft⟩ |
    ⟨wallet, rfl, hstore, hleft⟩ | ⟨wallet, rfl, hstore, hleft⟩
  · refine ⟨⟨hall hleft, fun signature => ?_⟩, Or.inl hstore⟩
    rw [recordings_next _ _ _ _ _ rest, hstore, hrows signature]
    simp
  · -- The new row and the call that has recorded it are counted together.
    refine ⟨⟨hall hleft, fun signature => ?_⟩, Or.inr (Or.inl ⟨rfl, by rw [hstore]⟩)⟩
    rw [recordings_next _ _ _ _ _ rest, hstore, rowsOf_insert, hrows signature]
    simp only [and_true, Nat.add_assoc]
  · refine ⟨⟨hall (hleft ▸ DepositPhase.done), fun signature => ?_⟩,
      Or.inr (Or.inr ⟨le_rfl, by rw [hleft]; rfl⟩)⟩
    have hrow : (pool.store.withWallet (call.credited wallet)).rowsOf signature =
        pool.store.rowsOf signature := rfl
    rw [recordings_next _ _ _ _ _ rest, hstore, hrow, hrows signature]
    simp

/-- At most one call has recorded a signature, and none has recorded one that was
    recorded before. -/
def Single (s : Db) (pool : DepositPool) : Prop :=
  ∀ signature, recordings signature pool.threads ≤ 1 ∧
    (s.records signature = true → recordings signature pool.threads = 0)

/-- A call that has succeeded has recorded its signature. -/
theorem successes_le (h : Upheld s pool) (signature : String) :
    successfulCalls signature pool ≤ recordings signature pool.threads := by
  refine List.countP_mono_left fun thread hmem hok => ?_
  simp only [Bool.and_eq_true, decide_eq_true_eq] at hok ⊢
  exact ⟨hok.1, phase_made (h.phases thread hmem) hok.2⟩

theorem creditedOnce_of_single (h : Upheld s pool) (hsingle : Single s pool) :
    CreditedOnce s pool := by
  constructor
  · intro signature
    exact (successes_le h signature).trans (hsingle signature).1
  · intro signature hrecorded
    have hle := successes_le h signature
    have hnone := (hsingle signature).2 hrecorded
    omega

theorem fresh_of_split {before after : List (Thread Db ServiceError DepositRequest)}
    {call : DepositRequest} {rest : Service Unit}
    (hthreads : pool.threads = before ++ ⟨call, 1, rest⟩ :: after)
    (hunfinished : rest.unfinished = true)
    (hfresh : recordsFresh (.access before.length) pool = true) :
    pool.store.records call.signature = false := by
  simpa [recordsFresh, hthreads, hunfinished] using hfresh

/-- While signatures are recorded only once, an access keeps it so, and changes
    what is its own. -/
theorem single_access {before after : List (Thread Db ServiceError DepositRequest)}
    {call : DepositRequest} {made : Nat} {rest : Service Unit}
    (h : Upheld s pool) (hsingle : Single s pool)
    (hthreads : pool.threads = before ++ ⟨call, made, rest⟩ :: after)
    (hunfinished : rest.unfinished = true)
    (hfresh : recordsFresh (.access before.length) pool = true) :
    Single s ⟨(rest.next pool.store).2,
        before ++ ⟨call, made + 1, (rest.next pool.store).1⟩ :: after⟩ ∧
      OwnSignature pool ⟨(rest.next pool.store).2,
        before ++ ⟨call, made + 1, (rest.next pool.store).1⟩ :: after⟩ := by
  constructor
  · intro signature
    have hold := hsingle signature
    have hrows := h.rows signature
    rw [hthreads] at hold hrows
    dsimp only
    rw [recordings_next _ _ _ _ _ rest]
    by_cases hself : call.signature = signature ∧ made = 1
    · -- The call records a signature that was not recorded.
      obtain ⟨rfl, rfl⟩ := hself
      have hnone := not_records_iff.mp (fresh_of_split hthreads hunfinished hfresh)
      rw [if_pos ⟨rfl, rfl⟩, records_iff]
      omega
    · rw [if_neg hself, Nat.add_zero]
      exact hold
  · rcases upheld_access h hthreads hunfinished with ⟨-, hdoes⟩
    rcases hdoes with hsame | ⟨rfl, hwallets⟩ | ⟨hmade, hdone⟩
    · exact Or.inl hsame
    · exact Or.inr ⟨before, _, _, after, hthreads, rfl, rfl,
        Or.inr (fresh_of_split hthreads hunfinished hfresh), Or.inl hwallets⟩
    · exact Or.inr ⟨before, _, _, after, hthreads, rfl, rfl, Or.inl hmade, Or.inr hdone⟩

/-! ### Where a signature was recorded twice -/

/-- A call has recorded a signature that was recorded besides. -/
def Doubled (s : Db) (pool : DepositPool) : Prop :=
  ∃ signature, 1 ≤ recordings signature pool.threads ∧
    2 ≤ s.rowsOf signature + recordings signature pool.threads

/-- A move keeps the rows and the calls together, and no recording is undone. -/
theorem move_upholds (h : Upheld s pool) (m : Move DepositRequest) :
    Upheld s (move DepositRequest.program pool m).2 ∧ ∀ signature,
      recordings signature pool.threads ≤
        recordings signature (move DepositRequest.program pool m).2.threads := by
  -- A move does nothing, starts a call, or takes the next access of one.
  rcases move_cases DepositRequest.program pool m with hsame | ⟨call, rfl, hnew⟩ |
    ⟨before, call, made, β, act, next, fail, after, rfl, hthreads, hnew⟩
  · rw [hsame]
    exact ⟨h, fun _ => le_rfl⟩
  · rw [hnew]
    refine ⟨upheld_start h call, fun signature => ?_⟩
    rw [recordings, recordings, List.countP_append]
    omega
  · rw [hnew]
    refine ⟨(upheld_access h hthreads rfl).1, fun signature => ?_⟩
    rw [hthreads, recordings_next _ _ _ _ _ (.access act next fail)]
    omega

theorem doubled_after (h : Upheld s pool) (hdoubled : Doubled s pool)
    (moves : List (Move DepositRequest)) :
    Doubled s (after (move DepositRequest.program) moves pool) := by
  induction moves generalizing pool with
  | nil => exact hdoubled
  | cons m moves ih =>
      -- Rows and recordings only grow.
      rcases move_upholds h m with ⟨hnext, hmono⟩
      rcases hdoubled with ⟨signature, hone, htwo⟩
      have hle := hmono signature
      rw [after_cons]
      refine ih hnext ⟨signature, ?_, ?_⟩
      · exact hone.trans hle
      · omega

/-- When all calls have returned, those that have recorded their signature have
    credited it. -/
theorem not_doubled_of_finished (h : Upheld s pool)
    (hfinished : ∀ thread ∈ pool.threads, thread.rest.unfinished = false)
    (honce : CreditedOnce s pool) : ¬Doubled s pool := by
  rintro ⟨signature, hone, htwo⟩
  have hall : recordings signature pool.threads ≤ successfulCalls signature pool := by
    refine List.countP_mono_left fun thread hmem hrecorded => ?_
    simp only [Bool.and_eq_true, decide_eq_true_eq] at hrecorded ⊢
    exact ⟨hrecorded.1, phase_outcome (h.phases thread hmem) hrecorded.2 (hfinished thread hmem)⟩
  have hatmost := honce.once signature
  -- The other row was there before, so nobody may have credited the signature.
  have hnone := honce.recorded signature (records_iff.mpr (by omega))
  omega

/-- A deposit that is recorded although its signature is recorded already. -/
theorem doubled_of_stale (h : Upheld s pool) {m : Move DepositRequest}
    (hstale : recordsFresh m pool = false) :
    Doubled s (move DepositRequest.program pool m).2 := by
  cases m with
  | start call => exact nomatch hstale
  | access i =>
      -- Only an access that is to record a signature can be stale.
      obtain ⟨thread, hget, hrest⟩ : ∃ thread, pool.threads[i]? = some thread ∧
          (thread.made = 1 ∧ thread.rest.unfinished = true) ∧
            pool.store.records thread.call.signature = true := by
        cases hget : pool.threads[i]? with
        | none => simp [recordsFresh, hget] at hstale
        | some thread => exact ⟨thread, rfl, by simpa [recordsFresh, hget] using hstale⟩
      rcases thread with ⟨call, made, rest⟩
      obtain ⟨⟨rfl, hunfinished⟩, hrecorded⟩ := hrest
      obtain ⟨hlt, hthread⟩ := List.getElem?_eq_some_iff.mp hget
      have hsplit : pool.threads = pool.threads.take i ++ ⟨call, 1, rest⟩ ::
          pool.threads.drop (i + 1) := by
        rw [← hthread, List.getElem_cons_drop, List.take_append_drop]
      have hlength : (pool.threads.take i).length = i := by
        rw [List.length_take]
        omega
      have hrows := h.rows call.signature
      have hrows' : 0 < pool.store.rowsOf call.signature := records_iff.mp hrecorded
      cases rest with
      | done a => exact nomatch hunfinished
      | raise e => exact nomatch hunfinished
      | access act next fail =>
          have hmove := move_access DepositRequest.program hsplit
          have hnext := recordings_next call.signature (pool.threads.take i)
            (pool.threads.drop (i + 1)) call 1 (.access act next fail) (next (act pool.store).1)
          rw [hlength] at hmove
          rw [← hsplit, if_pos ⟨rfl, rfl⟩] at hnext
          refine ⟨call.signature, ?_, ?_⟩ <;> rw [hmove] <;> dsimp only <;> omega

/-- A schedule whose calls have all returned credits no signature twice only if
    every deposit was new when it was recorded. -/
theorem fresh_of_creditedOnce {moves : List (Move DepositRequest)} (h : Upheld s pool)
    (hfinished : ∀ thread ∈ (after (move DepositRequest.program) moves pool).threads,
      thread.rest.unfinished = false)
    (honce : CreditedOnce s (after (move DepositRequest.program) moves pool)) :
    Along (move DepositRequest.program) (fun m pool _ _ => recordsFresh m pool = true) moves
      pool := by
  induction moves generalizing pool with
  | nil => exact trivial
  | cons m moves ih =>
      rcases move_upholds h m with ⟨hnext, -⟩
      refine ⟨?_, ih hnext hfinished honce⟩
      by_contra hstale
      rw [Bool.not_eq_true] at hstale
      -- A signature recorded twice stays so to the end.
      have hend : Upheld s (after (move DepositRequest.program) (m :: moves) pool) :=
        Machine.after_invariant (P := fun _ _ => True)
          (fun m _ _ hpool => (move_upholds hpool m).1) h
          (along_of_forall (fun _ _ => trivial) ..)
      exact not_doubled_of_finished hend hfinished honce
        (doubled_after hnext (doubled_of_stale h hstale) moves)

theorem upheld_nil (s : Db) : Upheld s ⟨s, []⟩ :=
  ⟨fun _ hmem => absurd hmem List.not_mem_nil, fun _ => rfl⟩

end Deposits

/-- While every deposit that is recorded is a new one, no signature is ever
    credited by two calls, and calls change only what is their own. And once all
    calls have returned, no signature was credited twice only if every deposit was
    new. -/
theorem deposits_creditedOnce (s : Db) (moves : List (Move DepositRequest)) :
    (Along (move DepositRequest.program) (fun m pool _ _ => recordsFresh m pool = true) moves
        ⟨s, []⟩ →
      Along (move DepositRequest.program)
        (fun _ pool _ pool' => CreditedOnce s pool' ∧ OwnSignature pool pool') moves ⟨s, []⟩) ∧
    ((∀ thread ∈ (after (move DepositRequest.program) moves ⟨s, []⟩).threads,
        thread.rest.unfinished = false) →
      (CreditedOnce s (after (move DepositRequest.program) moves ⟨s, []⟩) ↔
        Along (move DepositRequest.program) (fun m pool _ _ => recordsFresh m pool = true) moves
          ⟨s, []⟩)) := by
  have hsingle : Single s ⟨s, []⟩ := fun _ => ⟨Nat.zero_le _, fun _ => rfl⟩
  have hrun : ∀ m pool, recordsFresh m pool = true → Upheld s pool → Single s pool →
      OwnSignature pool (move DepositRequest.program pool m).2 ∧
        Single s (move DepositRequest.program pool m).2 := by
    intro m pool hfresh hupheld hsingle
    rcases move_cases DepositRequest.program pool m with hsame | ⟨call, rfl, hnew⟩ |
      ⟨before, call, made, β, act, next, fail, after, rfl, hthreads, hnew⟩
    · rw [hsame]
      exact ⟨Or.inl rfl, hsingle⟩
    · -- A call that is started has not recorded anything.
      rw [hnew]
      refine ⟨Or.inl rfl, fun signature => ?_⟩
      rw [recordings_split]
      simpa [Thread.begin, recordings] using hsingle signature
    · rw [hnew]
      exact (single_access hupheld hsingle hthreads rfl hfresh).symm
  have hinvariant : ∀ m pool, recordsFresh m pool = true → Upheld s pool ∧ Single s pool →
      (CreditedOnce s (move DepositRequest.program pool m).2 ∧
        OwnSignature pool (move DepositRequest.program pool m).2) ∧
      Upheld s (move DepositRequest.program pool m).2 ∧
        Single s (move DepositRequest.program pool m).2 := by
    rintro m pool hfresh ⟨hupheld, hsingle⟩
    rcases hrun m pool hfresh hupheld hsingle with ⟨hown, hnext⟩
    have hkept := (move_upholds hupheld m).1
    exact ⟨⟨creditedOnce_of_single hkept hnext, hown⟩, hkept, hnext⟩
  refine ⟨fun hfresh => ?_, fun hfinished => ⟨fun honce => ?_, fun hfresh => ?_⟩⟩
  · exact Machine.along_invariant hinvariant ⟨upheld_nil s, hsingle⟩ hfresh
  · exact fresh_of_creditedOnce (upheld_nil s) hfinished honce
  · have hend := Machine.after_invariant (fun m pool hm hpool => (hinvariant m pool hm hpool).2)
      ⟨upheld_nil s, hsingle⟩ hfresh
    exact creditedOnce_of_single hend.1 hend.2

/-- Two players with a wallet each. -/
def twoWallets : Db := Db.empty.after (Run.calmly (fundPlayers ["a", "b"] 1000))

/-- Deposits of both players, one after the other, for the transfers that are
    named. -/
def depositsInTurn (first second : String) : List (Move DepositRequest) :=
  [.start { playerId := "a", amount := 500, signature := first },
    .access 0, .access 0, .access 0,
    .start { playerId := "b", amount := 500, signature := second },
    .access 1, .access 1, .access 1]

theorem deposits_creditedOnce_sample :
    Along (move DepositRequest.program)
      (fun _ pool _ pool' => CreditedOnce twoWallets pool' ∧ OwnSignature pool pool')
      (depositsInTurn "first" "second") ⟨twoWallets, []⟩ :=
  (deposits_creditedOnce twoWallets (depositsInTurn "first" "second")).1 (by decide +kernel)

/-- One transfer is credited to both players. -/
theorem transfer_credited_twice :
    ¬CreditedOnce twoWallets (after (move DepositRequest.program)
      (depositsInTurn "transfer" "transfer") ⟨twoWallets, []⟩) := by
  intro h
  have hatmost := h.once "transfer"
  have htwice : successfulCalls "transfer" (after (move DepositRequest.program)
      (depositsInTurn "transfer" "transfer") ⟨twoWallets, []⟩) = 2 := by decide +kernel
  omega

end Esports

end SvmCourse
