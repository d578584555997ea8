import SvmCourse.Core.Machine
import SvmCourse.Core.Prog

/-!
# Schedules

Many calls on one store at the same time. A pool is the store with the calls
that have been started, and a call that has been started is what is left of its
program. A scheduler starts calls and picks which of them makes its next
access, so a schedule is a list of moves and every list of moves is one:
picking a call that is finished, or one that was never started, does nothing.

Pools are machines, so what holds along every run of a machine is said of
schedules in the same words.

## Main definitions

* `outcome`: What a program has come to.
* `next`: What one access leaves of it.
* `Thread`: A call that has been started.
* `Pool`: The store and the calls.
* `Move`, `move`: What a scheduler does.

## Theorems

* `move_cases`: A move does nothing, starts a call, or makes one access.
* `along_fresh`: Calls with different keys are never at it twice.
* `along_started`: What holds of every call holds where it is started.
* `along_pool`: What every start and every access keeps, every schedule keeps.
-/

namespace Core

namespace Prog

variable {σ ε α : Type}

/-- The program is about to make an access. -/
def unfinished : Prog σ ε α → Bool
  | done _ => false
  | raise _ => false
  | access .. => true

/-- What the program has come to, if it is finished. -/
def outcome : Prog σ ε α → Option (Except ε α)
  | done a => some (.ok a)
  | raise e => some (.error e)
  | access .. => none

/-- The next access, if there is one: what is left then, and the store. -/
def next : Prog σ ε α → σ → Prog σ ε α × σ
  | done a, s => (done a, s)
  | raise e, s => (raise e, s)
  | access act next _, s => (next (act s).1, (act s).2)

theorem outcome_of_unfinished {p : Prog σ ε α} (h : p.unfinished = true) : p.outcome = none := by
  cases p with
  | done a => exact nomatch h
  | raise e => exact nomatch h
  | access act next fail => rfl

theorem eval_of_outcome {p : Prog σ ε α} {r : Except ε α} (h : p.outcome = some r) (s : σ) :
    p.eval s = (r, s) := by
  cases p with
  | done a => exact congrArg (·, s) (Option.some.inj h)
  | raise e => exact congrArg (·, s) (Option.some.inj h)
  | access act next fail => exact nomatch h

theorem outcome_of_finished {p : Prog σ ε α} (h : p.unfinished = false) :
    ∃ r, p.outcome = some r := by
  cases p with
  | done a => exact ⟨_, rfl⟩
  | raise e => exact ⟨_, rfl⟩
  | access act next fail => exact nomatch h

end Prog

namespace Sched

open Prog Machine

variable {σ ε κ : Type}

/-- A call, how many accesses it has made, and what is left of it. -/
structure Thread (σ ε κ : Type) where
  call : κ
  made : Nat
  rest : Prog σ ε Unit

/-- The call has made an access and is about to make another. -/
def Thread.midway (thread : Thread σ ε κ) : Bool := 0 < thread.made && thread.rest.unfinished

/-- A store and the threads on it. -/
structure Pool (σ ε κ : Type) where
  store : σ
  threads : List (Thread σ ε κ)

/-- Start a call, or let a call that has been started make its next access. -/
inductive Move (κ : Type) where
  | start (call : κ)
  | access (i : Nat)

/-- A thread that has made no access. -/
def Thread.begin (program : κ → Prog σ ε Unit) (call : κ) : Thread σ ε κ :=
  ⟨call, 0, program call⟩

/-- What a move does: a thread begins, or makes its next access. -/
def move (program : κ → Prog σ ε Unit) (pool : Pool σ ε κ) : Move κ → Unit × Pool σ ε κ
  | .start call => ((), { pool with threads := pool.threads ++ [Thread.begin program call] })
  | .access i =>
    match pool.threads[i]? with
    | some ⟨call, made, .access act next _⟩ =>
      ((), ⟨(act pool.store).2, pool.threads.set i ⟨call, made + 1, next (act pool.store).1⟩⟩)
    | _ => ((), pool)

/-- The call a move starts, if it starts one. -/
def Move.started : Move κ → Option κ
  | .start call => some call
  | .access _ => none

variable {program : κ → Prog σ ε Unit} {pool : Pool σ ε κ}

/-- The access of a thread changes the store and that thread. -/
theorem move_access (program : κ → Prog σ ε Unit) {before after : List (Thread σ ε κ)}
    {call : κ} {made : Nat} {β : Type} {act : σ → β × σ} {next : β → Prog σ ε Unit}
    {fail : Prog σ ε Unit} (h : pool.threads = before ++
      ⟨call, made, .access act next fail⟩ :: after) :
    (move program pool (.access before.length)).2 =
      ⟨(act pool.store).2, before ++ ⟨call, made + 1, next (act pool.store).1⟩ :: after⟩ := by
  have hget : pool.threads[before.length]? = some ⟨call, made, .access act next fail⟩ := by
    rw [h]
    simp
  have hset : pool.threads.set before.length ⟨call, made + 1, next (act pool.store).1⟩ =
      before ++ ⟨call, made + 1, next (act pool.store).1⟩ :: after := by
    rw [h]
    simp
  simp only [move, hget, hset]

/-- A move does nothing, or starts a call, or makes the access of one call. -/
theorem move_cases (program : κ → Prog σ ε Unit) (pool : Pool σ ε κ) (m : Move κ) :
    (move program pool m).2 = pool ∨
    (∃ call, m = .start call ∧ (move program pool m).2 =
      { pool with threads := pool.threads ++ [Thread.begin program call] }) ∨
    ∃ before call made, ∃ (β : Type) (act : σ → β × σ) (next : β → Prog σ ε Unit), ∃ fail after,
      m = .access before.length ∧
      pool.threads = before ++ ⟨call, made, .access act next fail⟩ :: after ∧
      (move program pool m).2 =
        ⟨(act pool.store).2, before ++ ⟨call, made + 1, next (act pool.store).1⟩ :: after⟩ := by
  cases m with
  | start call => exact Or.inr (Or.inl ⟨call, rfl, rfl⟩)
  | access i =>
      cases hget : pool.threads[i]? with
      | none =>
          refine Or.inl ?_
          simp only [move, hget]
      | some thread =>
          rcases thread with ⟨call, made, rest⟩
          cases rest with
          | done a =>
              refine Or.inl ?_
              simp only [move, hget]
          | raise e =>
              refine Or.inl ?_
              simp only [move, hget]
          | access act next fail =>
              rcases List.getElem?_eq_some_iff.mp hget with ⟨hlt, hthread⟩
              -- The thread that makes its access, with those around it.
              have hsplit : pool.threads = pool.threads.take i ++
                  ⟨call, made, .access act next fail⟩ :: pool.threads.drop (i + 1) := by
                rw [← hthread, List.getElem_cons_drop, List.take_append_drop]
              have hlength : (pool.threads.take i).length = i := by
                rw [List.length_take]
                omega
              refine Or.inr (Or.inr ⟨pool.threads.take i, call, made, _, act, next, fail,
                pool.threads.drop (i + 1), ?_, hsplit, ?_⟩)
              · rw [hlength]
              · have hmove := move_access program hsplit
                rw [hlength] at hmove
                exact hmove

/-- A step that may be made where it is made keeps the invariant and has the
    property: nothing happens, or a call is started, or a call makes its next
    access. -/
theorem along_pool {I : Pool σ ε κ → Prop} {P : Move κ → Pool σ ε κ → Prop}
    {Q : Pool σ ε κ → Pool σ ε κ → Prop} {moves : List (Move κ)}
    (hnone : ∀ pool, I pool → Q pool pool)
    (hstart : ∀ pool call, P (.start call) pool → I pool →
      Q pool { pool with threads := pool.threads ++ [Thread.begin program call] } ∧
        I { pool with threads := pool.threads ++ [Thread.begin program call] })
    (haccess : ∀ pool before call made (β : Type) (act : σ → β × σ) next fail after,
      P (.access before.length) pool → I pool →
      pool.threads = before ++ ⟨call, made, .access act next fail⟩ :: after →
      Q pool ⟨(act pool.store).2, before ++ ⟨call, made + 1, next (act pool.store).1⟩ :: after⟩ ∧
        I ⟨(act pool.store).2, before ++ ⟨call, made + 1, next (act pool.store).1⟩ :: after⟩)
    (hpool : I pool) (hP : Along (move program) (fun m s _ _ => P m s) moves pool) :
    Along (move program) (fun _ s _ t => Q s t) moves pool := by
  refine along_invariant (I := I) (fun m s hm hs => ?_) hpool hP
  rcases move_cases program s m with hsame | ⟨call, rfl, hnew⟩ |
    ⟨before, call, made, β, act, next, fail, after, rfl, hthreads, hnew⟩
  · rw [hsame]
    exact ⟨hnone s hs, hs⟩
  · rw [hnew]
    exact hstart s call hm hs
  · rw [hnew]
    exact haccess s before call made β act next fail after hm hs hthreads

/-- When the calls of a schedule have different keys, a call is started while no
    call with its key has been. -/
theorem along_fresh {A : Type} {key : κ → A} {moves : List (Move κ)}
    (h : (pool.threads.map (fun thread => key thread.call) ++
      (moves.filterMap Move.started).map key).Nodup) :
    Along (move program) (fun m pool _ _ => ∀ call, m = .start call →
      ∀ thread ∈ pool.threads, key thread.call ≠ key call) moves pool := by
  induction moves generalizing pool with
  | nil => exact trivial
  | cons m moves ih =>
      rcases move_cases program pool m with hsame | ⟨call, rfl, hnew⟩ |
        ⟨before, call, made, β, act, next, fail, after, rfl, hthreads, hnew⟩
      · cases m with
        | start call =>
            -- A start always adds a thread.
            have hlength := congrArg (fun p => p.threads.length) hsame
            simp [move] at hlength
        | access i =>
            refine ⟨fun _ hstart => (nomatch hstart), ?_⟩
            rw [hsame]
            exact ih h
      · have hstarted : (Move.start call :: moves).filterMap Move.started =
            call :: moves.filterMap Move.started := rfl
        rw [hstarted, List.map_cons] at h
        constructor
        · rintro _ ⟨⟩ thread hthread heq
          -- Its key is among those to come, so no thread has it yet.
          have hdisjoint := (List.nodup_append.mp h).2.2
          exact hdisjoint _ (List.mem_map_of_mem hthread) _ (List.mem_cons_self ..) heq
        · rw [hnew]
          refine ih ?_
          rw [List.map_append, List.map_singleton, List.append_assoc]
          exact h
      · refine ⟨fun _ hstart => (nomatch hstart), ?_⟩
        rw [hnew]
        have hstarted : (Move.access before.length :: moves).filterMap Move.started =
            moves.filterMap Move.started := rfl
        rw [hthreads, hstarted] at h
        refine ih ?_
        simpa using h

/-- What holds of every call of a schedule holds wherever one is started. -/
theorem along_started {Q : κ → Prop} {moves : List (Move κ)}
    (h : ∀ call ∈ moves.filterMap Move.started, Q call) :
    Along (move program) (fun m _ _ _ => ∀ call, m = .start call → Q call) moves pool := by
  -- Either this move starts the call, or a later one.
  induction moves generalizing pool with
  | nil => exact trivial
  | cons m moves ih =>
      constructor
      · rintro call rfl
        exact h call (List.mem_cons_self ..)
      · refine ih fun call hmem => h call ?_
        cases m with
        | start other => exact List.mem_cons_of_mem _ hmem
        | access i => exact hmem

end Sched

end Core
