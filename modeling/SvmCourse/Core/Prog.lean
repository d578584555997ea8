import Mathlib.Tactic.Common

/-!
# Programs over a Shared Store

What an asynchronous service method is once everything but its store traffic
is erased: a tree of atomic accesses. Each node reads or changes the store in
one indivisible step and hands the answer to the rest of the method, and each
node also says where control goes when the store refuses the access.

Keeping the method as a tree rather than as a state transformer is what lets
one definition serve three purposes. `eval` runs it with a store that never
fails. `run` runs it against a pattern of refusals, one Boolean per access,
so a statement about "any single access fails" is a statement about patterns.
A scheduler can take the tree apart one access at a time.

A refused access writes nothing and is an exception at the point of the
access, so `rescue` sees it like any other. `onError` is the handler that
cleans up and then lets the exception go on.

`Ensures` is the reasoning principle. It says that a postcondition holds
whichever accesses are refused, and it is defined on the tree, so a proof
walks through the program once instead of once per refusal.

## Main definitions

* `Prog`: A program of atomic accesses.
* `rescue`: Handling an exception.
* `onError`: Cleaning up after an exception and raising it again.
* `require`: Raising an exception unless a check holds.
* `each`: Running a body once per element of a list.
* `eval`: The run in which no access is refused.
* `run`: The run against a pattern of refusals.
* `calm`: The pattern that refuses nothing.
* `failAt`: The pattern that refuses one access.
* `Ensures`: A postcondition, with or without refusals.
* `Frames`: No access changes a view of the store.
* `Preserves`: Every run keeps a property of the store.
* `Upholds`: Every access keeps a property of the store.
* `Ends`: What a program can end with, some accesses refused.
* `against`: A program as one access of its own.
* `accesses`, `Plain`: Counting accesses, and programs without handlers.
* `afterRun`: The store after a sequence of calls.
* `AlongRun`: What holds of every call of a sequence.

## Theorems

* `run_calm`: Against the calm pattern a run is the evaluation.
* `eval_bind_ok`, `eval_bind_error`: Sequencing two evaluations.
* `ensures_false_iff`, `ensures_true_iff`: What `Ensures` says about runs.
* `ensures_bind`, `ensures_rescue`: The postcondition of composed programs.
* `ensures_mono`: Weakening a postcondition.
* `ensures_each`: The loop rule.
* `ensures_of_frames`: The frame rule.
* `run_failAt_split`: Where one refused access strikes in a sequence.
* `ends_iff_run`: Those ends are the ends of the runs.
* `endsLike_bind`: Programs whose parts end like those of others.
* `afterRun_invariant`: What every call keeps, every run keeps.
* `alongRun_invariant`: The same when each call meets a condition where it is
  made, with a property of each call besides.
* `alongRun_iff`: When the condition is exact, it is exact for runs.
-/

namespace Core

/-- A program over a store `σ` that may raise an `ε`: finished, raising, or
    about to make one atomic access. `fail` is where control goes when the
    store refuses the access. -/
inductive Prog (σ ε α : Type) : Type 1 where
  | done (a : α)
  | raise (e : ε)
  | access {β : Type} (act : σ → β × σ) (next : β → Prog σ ε α) (fail : Prog σ ε α)

namespace Prog

variable {σ ε α β : Type}

/-- One program after the other. An error ends both. -/
def bind : Prog σ ε α → (α → Prog σ ε β) → Prog σ ε β
  | done a, f => f a
  | raise e, _ => raise e
  | access act next fail, f => access act (fun b => (next b).bind f) (fail.bind f)

instance : Monad (Prog σ ε) where
  pure := done
  bind := bind

/-- Run the handler where the program raises. -/
def rescue : Prog σ ε α → (ε → Prog σ ε α) → Prog σ ε α
  | done a, _ => done a
  | raise e, h => h e
  | access act next fail, h => access act (fun b => (next b).rescue h) (fail.rescue h)

/-- Run the handler where the program raises, then raise the same exception
    again unless the handler itself raised another. -/
def onError (p : Prog σ ε α) (h : ε → Prog σ ε Unit) : Prog σ ε α :=
  p.rescue fun e => (h e).bind fun _ => raise e

/-- One access, raising `e` when the store refuses it. -/
def perform (e : ε) (act : σ → α × σ) : Prog σ ε α :=
  access act done (raise e)

/-- Go on, or raise the error. -/
def require (ok : Bool) (e : ε) : Prog σ ε Unit :=
  if ok then done () else raise e

/-- The value of an option, or the exception that says it is missing. -/
def demand (o : Option α) (e : ε) : Prog σ ε α :=
  match o with
  | some a => done a
  | none => raise e

/-- A computation that makes no access but may raise. -/
def compute (result : Except ε α) : Prog σ ε α :=
  match result with
  | .ok a => done a
  | .error e => raise e

/-- The program for each element, one after the other. -/
def each : List β → (β → Prog σ ε Unit) → Prog σ ε Unit
  | [], _ => done ()
  | x :: xs, f => (f x).bind fun _ => each xs f

/-! ### Evaluation without refusals -/

/-- The outcome and the state of a run in which no access is refused. -/
def eval : Prog σ ε α → σ → Except ε α × σ
  | done a, s => (.ok a, s)
  | raise e, s => (.error e, s)
  | access act next _, s => (next (act s).1).eval (act s).2

@[simp] theorem bind_eq (p : Prog σ ε α) (f : α → Prog σ ε β) : (p >>= f) = p.bind f := rfl

@[simp] theorem pure_eq (a : α) : (pure a : Prog σ ε α) = done a := rfl

@[simp] theorem eval_done (a : α) (s : σ) : (done a : Prog σ ε α).eval s = (.ok a, s) := rfl

@[simp] theorem eval_perform (e : ε) (act : σ → α × σ) (s : σ) :
    (perform e act).eval s = (.ok (act s).1, (act s).2) := rfl

@[simp] theorem eval_require_true (e : ε) (s : σ) :
    (require true e : Prog σ ε Unit).eval s = (.ok (), s) := rfl

@[simp] theorem eval_require_false (e : ε) (s : σ) :
    (require false e : Prog σ ε Unit).eval s = (.error e, s) := rfl

@[simp] theorem eval_demand_some (a : α) (e : ε) (s : σ) :
    (demand (some a) e : Prog σ ε α).eval s = (.ok a, s) := rfl

theorem eval_compute (result : Except ε α) (s : σ) :
    (compute result : Prog σ ε α).eval s = (result, s) := by
  cases result with
  | ok a => rfl
  | error e => rfl

theorem eval_bind (p : Prog σ ε α) (f : α → Prog σ ε β) (s : σ) :
    (p.bind f).eval s = match p.eval s with
      | (.ok a, t) => (f a).eval t
      | (.error e, t) => (.error e, t) := by
  induction p generalizing s with
  | done a => rfl
  | raise e => rfl
  -- The answer decides which program is left, so the hypothesis is for that one.
  | access act next fail ihn _ => exact ihn (act s).1 (act s).2

theorem eval_bind_ok {p : Prog σ ε α} {f : α → Prog σ ε β} {s t : σ} {a : α}
    (h : p.eval s = (.ok a, t)) : (p.bind f).eval s = (f a).eval t := by
  rw [eval_bind, h]

theorem eval_bind_error {p : Prog σ ε α} {f : α → Prog σ ε β} {s t : σ} {e : ε}
    (h : p.eval s = (.error e, t)) : (p.bind f).eval s = (.error e, t) := by
  rw [eval_bind, h]

theorem eval_rescue (p : Prog σ ε α) (h : ε → Prog σ ε α) (s : σ) :
    (p.rescue h).eval s = match p.eval s with
      | (.ok a, t) => (.ok a, t)
      | (.error e, t) => (h e).eval t := by
  induction p generalizing s with
  | done a => rfl
  | raise e => rfl
  | access act next fail ihn _ => exact ihn (act s).1 (act s).2

/-- Another exception in the place of the one that was raised leaves the same
    state. -/
theorem eval_reraise (p : Prog σ ε α) (f : ε → ε) (s : σ) :
    ((p.rescue fun e => .raise (f e)).eval s).2 = (p.eval s).2 := by
  rw [eval_rescue]
  rcases p.eval s with ⟨answer, after⟩
  cases answer <;> rfl

/-- Another result in the place of the one that is returned leaves the same
    state. -/
theorem eval_map (p : Prog σ ε α) (f : α → β) (s : σ) :
    ((p.bind fun a => .done (f a)).eval s).2 = (p.eval s).2 := by
  rw [eval_bind]
  rcases p.eval s with ⟨answer, after⟩
  cases answer <;> rfl

/-- What comes of a program is an answer itself, whether it raises or not. -/
theorem eval_rescue_done (p : Prog σ ε α) (s : σ) :
    ((p.bind fun a => .done (.ok a)).rescue fun e => .done (.error e) :
      Prog σ ε (Except ε α)).eval s = (.ok (p.eval s).1, (p.eval s).2) := by
  rw [eval_rescue, eval_bind]
  rcases p.eval s with ⟨answer, after⟩
  cases answer <;> rfl

/-! ### Runs against a pattern of refusals -/

/-- The run in which access number `n` is refused exactly when `o n` holds,
    together with what is left of the pattern. -/
def run : Prog σ ε α → (Nat → Bool) → σ → Except ε α × σ × (Nat → Bool)
  | done a, o, s => (.ok a, s, o)
  | raise e, o, s => (.error e, s, o)
  | access act next fail, o, s =>
    if o 0 then fail.run (fun n => o (n + 1)) s
    else (next (act s).1).run (fun n => o (n + 1)) (act s).2

/-- No access is refused. -/
def calm : Nat → Bool := fun _ => false

/-- Only access number `k` is refused. -/
def failAt (k : Nat) : Nat → Bool := fun n => n == k

theorem run_access_failAt_zero (act : σ → β × σ) (next : β → Prog σ ε α) (fail : Prog σ ε α)
    (s : σ) : (access act next fail).run (failAt 0) s = fail.run calm s := by
  have htail : (fun n => failAt 0 (n + 1)) = calm := by
    funext n
    simp only [failAt, calm, Nat.add_eq_zero_iff, Nat.one_ne_zero, and_false,
      beq_eq_false_iff_ne, ne_eq, not_false_eq_true]
  rw [run, htail]
  rfl

theorem run_access_failAt_succ (act : σ → β × σ) (next : β → Prog σ ε α) (fail : Prog σ ε α)
    (k : Nat) (s : σ) :
    (access act next fail).run (failAt (k + 1)) s = (next (act s).1).run (failAt k) (act s).2 := by
  have htail : (fun n => failAt (k + 1) (n + 1)) = failAt k := by
    funext n
    simp only [failAt, Nat.reduceBeqDiff]
  rw [run, htail]
  rfl

theorem run_calm (p : Prog σ ε α) (s : σ) :
    p.run calm s = ((p.eval s).1, (p.eval s).2, calm) := by
  induction p generalizing s with
  | done a => rfl
  | raise e => rfl
  | access act next fail ihn _ => exact ihn (act s).1 (act s).2

theorem run_bind (p : Prog σ ε α) (f : α → Prog σ ε β) (o : Nat → Bool) (s : σ) :
    (p.bind f).run o s = match p.run o s with
      | (.ok a, t, o') => (f a).run o' t
      | (.error e, t, o') => (.error e, t, o') := by
  induction p generalizing o s with
  | done a => rfl
  | raise e => rfl
  | access act next fail ihn ihf =>
      simp only [bind, run]
      -- A refusal goes on with `fail`, and an answer with `next`.
      split
      · exact ihf _ _
      · exact ihn _ _ _

theorem run_rescue (p : Prog σ ε α) (h : ε → Prog σ ε α) (o : Nat → Bool) (s : σ) :
    (p.rescue h).run o s = match p.run o s with
      | (.ok a, t, o') => (.ok a, t, o')
      | (.error e, t, o') => (h e).run o' t := by
  induction p generalizing o s with
  | done a => rfl
  | raise e => rfl
  | access act next fail ihn ihf =>
      simp only [rescue, run]
      split
      · exact ihf _ _
      · exact ihn _ _ _

/-! ### One refused access -/

/-- The number of accesses the program makes when none is refused. -/
def accesses : Prog σ ε α → σ → Nat
  | done _, _ => 0
  | raise _, _ => 0
  | access act next _, s => (next (act s).1).accesses (act s).2 + 1

/-- Every refusal is an exception that nothing handles. -/
def Plain : Prog σ ε α → Prop
  | done _ => True
  | raise _ => True
  | access _ next fail => (∀ b, (next b).Plain) ∧ ∃ e, fail = raise e

theorem plain_bind {p : Prog σ ε α} {f : α → Prog σ ε β} (hp : p.Plain)
    (hf : ∀ a, (f a).Plain) : (p.bind f).Plain := by
  induction p with
  | done a => exact hf a
  | raise e => exact trivial
  | access act next fail ihn _ =>
      rcases hp with ⟨hnext, e, rfl⟩
      exact ⟨fun b => ihn b (hnext b), e, rfl⟩

theorem plain_perform (e : ε) (act : σ → α × σ) : (perform e act).Plain :=
  ⟨fun _ => trivial, e, rfl⟩

theorem plain_require (ok : Bool) (e : ε) : (require ok e : Prog σ ε Unit).Plain := by
  cases ok <;> exact trivial

theorem plain_demand (o : Option α) (e : ε) : (demand o e : Prog σ ε α).Plain := by
  cases o <;> exact trivial

theorem accesses_bind_ok {p : Prog σ ε α} {f : α → Prog σ ε β} {s t : σ} {a : α}
    (h : p.eval s = (.ok a, t)) : (p.bind f).accesses s = p.accesses s + (f a).accesses t := by
  induction p generalizing s with
  | done b =>
      simp only [eval, Prod.mk.injEq, Except.ok.injEq] at h
      rw [← h.1, ← h.2]
      simp only [bind, accesses, Nat.zero_add]
  -- A program that raises at once has not returned anything.
  | raise e => exact nomatch (Prod.mk.inj h).1
  | access act next fail ihn _ =>
      have hrest := ihn (act s).1 h
      simp only [bind, accesses]
      omega

theorem accesses_bind_error {p : Prog σ ε α} {f : α → Prog σ ε β} {s t : σ} {e : ε}
    (h : p.eval s = (.error e, t)) : (p.bind f).accesses s = p.accesses s := by
  induction p generalizing s with
  | done b => exact nomatch (Prod.mk.inj h).1
  | raise e => rfl
  | access act next fail ihn _ =>
      have hrest := ihn (act s).1 h
      simp only [bind, accesses]
      omega

/-- Refusing one of its accesses ends a plain program with an exception, and
    uses the refusal up. -/
theorem plain_run_failAt {p : Prog σ ε α} (hp : p.Plain) {k : Nat} {s : σ}
    (hk : k < p.accesses s) : ∃ e t, p.run (failAt k) s = (.error e, t, calm) := by
  induction p generalizing k s with
  | done a => exact absurd hk (Nat.not_lt_zero k)
  | raise e => exact absurd hk (Nat.not_lt_zero k)
  | access act next fail ihn _ =>
      rcases hp with ⟨hnext, e, rfl⟩
      -- The refusal strikes here, or at an access further down.
      cases k with
      | zero =>
          refine ⟨e, s, ?_⟩
          rw [run_access_failAt_zero]
          rfl
      | succ k =>
          rw [run_access_failAt_succ]
          exact ihn (act s).1 (hnext _) (Nat.lt_of_succ_lt_succ hk)

/-- A refusal that lies beyond the accesses of a program is left for what
    follows. -/
theorem run_failAt_beyond (p : Prog σ ε α) (s : σ) (j : Nat) :
    p.run (failAt (p.accesses s + j)) s = ((p.eval s).1, (p.eval s).2, failAt j) := by
  induction p generalizing s with
  | done a =>
      simp only [accesses, Nat.zero_add]
      rfl
  | raise e =>
      simp only [accesses, Nat.zero_add]
      rfl
  | access act next fail ihn _ =>
      -- One access is made here, the others in what is left.
      have hcount : (access act next fail).accesses s + j =
          (next (act s).1).accesses (act s).2 + j + 1 := by
        simp only [accesses]
        omega
      rw [hcount, run_access_failAt_succ]
      exact ihn _ _

/-- Where the one refusal strikes in a sequence: in the first program, or after
    it has succeeded. -/
theorem run_failAt_split {p : Prog σ ε α} {f : α → Prog σ ε β} {k : Nat} {s : σ} (hp : p.Plain)
    (hk : k < (p.bind f).accesses s) :
    (k < p.accesses s ∧ ∃ e t, p.run (failAt k) s = (.error e, t, calm)) ∨
    ∃ a t j, p.eval s = (.ok a, t) ∧ k = p.accesses s + j ∧ j < (f a).accesses t ∧
      p.run (failAt k) s = (.ok a, t, failAt j) := by
  by_cases hfirst : k < p.accesses s
  · exact Or.inl ⟨hfirst, plain_run_failAt hp hfirst⟩
  · obtain ⟨j, rfl⟩ : ∃ j, k = p.accesses s + j := ⟨k - p.accesses s, by omega⟩
    rcases heval : p.eval s with ⟨r, t⟩
    cases r with
    -- What follows an exception makes no access, so nothing is left to strike.
    | error e =>
        rw [accesses_bind_error heval] at hk
        exact absurd hk hfirst
    | ok a =>
        rw [accesses_bind_ok heval] at hk
        refine Or.inr ⟨a, t, j, rfl, rfl, by omega, ?_⟩
        rw [run_failAt_beyond, heval]

/-! ### Postconditions -/

/-- The program ends with a result and a store that satisfy `Q`, whichever
    accesses are refused when `C` holds, and with no access refused when it
    does not. Keeping `C` open lets one proof about a program serve both the
    runs with a calm store and the runs against every pattern. -/
def Ensures (C : Prop) : Prog σ ε α → σ → (Except ε α → σ → Prop) → Prop
  | done a, s, Q => Q (.ok a) s
  | raise e, s, Q => Q (.error e) s
  | access act next fail, s, Q =>
    (next (act s).1).Ensures C (act s).2 Q ∧ (C → fail.Ensures C s Q)

variable {C : Prop}

theorem ensures_false_iff (p : Prog σ ε α) (s : σ) (Q : Except ε α → σ → Prop) :
    p.Ensures False s Q ↔ Q (p.eval s).1 (p.eval s).2 := by
  induction p generalizing s with
  | done a => exact Iff.rfl
  | raise e => exact Iff.rfl
  | access act next fail ihn _ =>
      simp only [Ensures, eval, false_implies, and_true]
      exact ihn _ _

theorem ensures_true_iff (p : Prog σ ε α) (s : σ) (Q : Except ε α → σ → Prop) :
    p.Ensures True s Q ↔ ∀ o, Q (p.run o s).1 (p.run o s).2.1 := by
  induction p generalizing s with
  | done a => exact ⟨fun h _ => h, fun h => h calm⟩
  | raise e => exact ⟨fun h _ => h, fun h => h calm⟩
  | access act next fail ihn ihf =>
      simp only [Ensures, true_implies]
      constructor
      · -- A pattern takes one of the two branches.
        rintro ⟨hn, hf⟩ o
        simp only [run]
        split
        · exact (ihf s).mp hf _
        · exact (ihn _ _).mp hn _
      · intro h
        -- For each branch there is a pattern that takes it.
        refine ⟨(ihn _ _).mpr fun o => ?_, (ihf _).mpr fun o => ?_⟩
        · exact h fun n => n.casesOn false o
        · exact h fun n => n.casesOn true o

theorem ensures_mono {p : Prog σ ε α} {s : σ} {Q R : Except ε α → σ → Prop}
    (h : p.Ensures C s Q) (hQR : ∀ r t, Q r t → R r t) : p.Ensures C s R := by
  -- Down the tree to the leaves, where the postconditions stand.
  induction p generalizing s with
  | done a => exact hQR _ _ h
  | raise e => exact hQR _ _ h
  | access act next fail ihn ihf => exact ⟨ihn _ h.1, fun hc => ihf (h.2 hc)⟩

theorem ensures_trivial (p : Prog σ ε α) (s : σ) : p.Ensures C s fun _ _ => True := by
  induction p generalizing s with
  | done a => exact trivial
  | raise e => exact trivial
  | access act next fail ihn ihf => exact ⟨ihn _ _, fun _ => ihf _⟩

theorem ensures_and {p : Prog σ ε α} {s : σ} {Q R : Except ε α → σ → Prop}
    (hQ : p.Ensures C s Q) (hR : p.Ensures C s R) : p.Ensures C s fun r t => Q r t ∧ R r t := by
  induction p generalizing s with
  | done a => exact ⟨hQ, hR⟩
  | raise e => exact ⟨hQ, hR⟩
  | access act next fail ihn ihf => exact ⟨ihn _ hQ.1 hR.1, fun hc => ihf (hQ.2 hc) (hR.2 hc)⟩

theorem ensures_bind {p : Prog σ ε α} {f : α → Prog σ ε β} {s : σ} {Q : Except ε β → σ → Prop}
    (h : p.Ensures C s fun r t => match r with
      | .ok a => (f a).Ensures C t Q
      | .error e => Q (.error e) t) :
    (p.bind f).Ensures C s Q := by
  induction p generalizing s with
  | done a => exact h
  | raise e => exact h
  | access act next fail ihn ihf => exact ⟨ihn _ h.1, fun hc => ihf (h.2 hc)⟩

theorem ensures_map {p : Prog σ ε α} {f : α → β} {s : σ} {Q : Except ε β → σ → Prop}
    (h : p.Ensures C s fun r t => Q (r.map f) t) : (p.bind fun a => done (f a)).Ensures C s Q := by
  refine ensures_bind (ensures_mono h fun r t ht => ?_)
  cases r with
  | ok a => exact ht
  | error e => exact ht

theorem ensures_rescue {p : Prog σ ε α} {h : ε → Prog σ ε α} {s : σ}
    {Q : Except ε α → σ → Prop}
    (hp : p.Ensures C s fun r t => match r with
      | .ok a => Q (.ok a) t
      | .error e => (h e).Ensures C t Q) :
    (p.rescue h).Ensures C s Q := by
  induction p generalizing s with
  | done a => exact hp
  | raise e => exact hp
  | access act next fail ihn ihf => exact ⟨ihn _ hp.1, fun hc => ihf (hp.2 hc)⟩

theorem ensures_onError {p : Prog σ ε α} {h : ε → Prog σ ε Unit} {s : σ}
    {Q : Except ε α → σ → Prop}
    (hp : p.Ensures C s fun r t => match r with
      | .ok a => Q (.ok a) t
      | .error e => (h e).Ensures C t fun r' u => match r' with
        | .ok _ => Q (.error e) u
        | .error e' => Q (.error e') u) :
    (p.onError h).Ensures C s Q := by
  refine ensures_rescue (ensures_mono hp fun r t hr => ?_)
  cases r with
  | ok a => exact hr
  -- The handler returns, and the first exception is raised again.
  | error e => exact ensures_bind (ensures_mono hr fun r' u hu => by cases r' <;> exact hu)

theorem ensures_perform {e : ε} {act : σ → α × σ} {s : σ} {Q : Except ε α → σ → Prop}
    (hok : Q (.ok (act s).1) (act s).2) (herr : C → Q (.error e) s) :
    (perform e act).Ensures C s Q :=
  ⟨hok, herr⟩

theorem ensures_require {ok : Bool} {e : ε} {s : σ} {Q : Except ε Unit → σ → Prop}
    (hok : ok = true → Q (.ok ()) s) (herr : ok = false → Q (.error e) s) :
    (require ok e).Ensures C s Q := by
  cases ok with
  | true => exact hok rfl
  | false => exact herr rfl

theorem ensures_demand {o : Option α} {e : ε} {s : σ} {Q : Except ε α → σ → Prop}
    (hok : ∀ a, o = some a → Q (.ok a) s) (herr : o = none → Q (.error e) s) :
    (demand o e).Ensures C s Q := by
  cases o with
  | some a => exact hok a rfl
  | none => exact herr rfl

theorem ensures_compute {result : Except ε α} {s : σ} {Q : Except ε α → σ → Prop}
    (h : Q result s) : (compute result).Ensures C s Q := by
  cases result with
  | ok a => exact h
  | error e => exact h

/-- The loop rule: what every body keeps, the loop keeps, wherever it stops. -/
theorem ensures_each {f : β → Prog σ ε Unit} {I : σ → Prop} {xs : List β} {s : σ} (hs : I s)
    (hbody : ∀ x ∈ xs, ∀ t, I t → (f x).Ensures C t fun _ u => I u) :
    (each xs f).Ensures C s fun _ u => I u := by
  induction xs generalizing s with
  | nil => exact hs
  | cons x xs ih =>
      refine ensures_bind (ensures_mono (hbody x (List.mem_cons_self ..) s hs) fun r t ht => ?_)
      cases r with
      | ok a => exact ih ht fun y hy => hbody y (List.mem_cons_of_mem _ hy)
      -- The loop stops here, with the invariant.
      | error e => exact ht

/-! ### Frames -/

section Frames

variable {A : Type} {view : σ → A}

/-- No access of the program changes the view of the store. -/
def Frames (view : σ → A) : Prog σ ε α → Prop
  | done _ => True
  | raise _ => True
  | access act next fail =>
    (∀ s, view (act s).2 = view s) ∧ (∀ b, (next b).Frames view) ∧ fail.Frames view

theorem frames_bind {p : Prog σ ε α} {f : α → Prog σ ε β} (hp : p.Frames view)
    (hf : ∀ a, (f a).Frames view) : (p.bind f).Frames view := by
  induction p with
  | done a => exact hf a
  | raise e => exact trivial
  | access act next fail ihn ihf =>
      exact ⟨hp.1, fun b => ihn b (hp.2.1 b), ihf hp.2.2⟩

theorem frames_rescue {p : Prog σ ε α} {h : ε → Prog σ ε α} (hp : p.Frames view)
    (hh : ∀ e, (h e).Frames view) : (p.rescue h).Frames view := by
  induction p with
  | done a => exact trivial
  | raise e => exact hh e
  | access act next fail ihn ihf =>
      exact ⟨hp.1, fun b => ihn b (hp.2.1 b), ihf hp.2.2⟩

theorem frames_onError {p : Prog σ ε α} {h : ε → Prog σ ε Unit} (hp : p.Frames view)
    (hh : ∀ e, (h e).Frames view) : (p.onError h).Frames view :=
  frames_rescue hp fun e => frames_bind (hh e) fun _ => trivial

theorem frames_perform {e : ε} {act : σ → α × σ} (h : ∀ s, view (act s).2 = view s) :
    (perform e act).Frames view :=
  ⟨h, fun _ => trivial, trivial⟩

theorem frames_require (ok : Bool) (e : ε) : (require ok e : Prog σ ε Unit).Frames view := by
  cases ok <;> exact trivial

theorem frames_demand (o : Option α) (e : ε) : (demand o e : Prog σ ε α).Frames view := by
  cases o <;> exact trivial

theorem frames_compute (result : Except ε α) :
    (compute result : Prog σ ε α).Frames view := by
  cases result <;> exact trivial

theorem frames_each {f : β → Prog σ ε Unit} {xs : List β} (hf : ∀ x, (f x).Frames view) :
    (each xs f).Frames view := by
  induction xs with
  | nil => exact trivial
  | cons x xs ih => exact frames_bind (hf x) fun _ => ih

/-- What the accesses leave alone, every run leaves alone. -/
theorem ensures_of_frames {p : Prog σ ε α} (hp : p.Frames view) (s : σ) :
    p.Ensures C s fun _ t => view t = view s := by
  induction p generalizing s with
  | done a => rfl
  | raise e => rfl
  | access act next fail ihn ihf =>
      refine ⟨?_, fun _ => ihf hp.2.2 s⟩
      -- The first access and the rest both leave the view alone.
      exact ensures_mono (ihn _ (hp.2.1 _) _) fun _ t ht => ht.trans (hp.1 s)

end Frames

/-! ### Kept properties -/

/-- Whatever is refused, the program keeps the property of the store. -/
def Preserves (I : σ → Prop) (p : Prog σ ε α) : Prop :=
  ∀ s, I s → p.Ensures True s fun _ t => I t

section Preserves

variable {I : σ → Prop}

theorem preserves_bind {p : Prog σ ε α} {f : α → Prog σ ε β} (hp : p.Preserves I)
    (hf : ∀ a, (f a).Preserves I) : (p.bind f).Preserves I := by
  intro s hs
  refine ensures_bind (ensures_mono (hp s hs) fun r t ht => ?_)
  cases r with
  | ok a => exact hf a t ht
  | error e => exact ht

theorem preserves_onError {p : Prog σ ε α} {h : ε → Prog σ ε Unit} (hp : p.Preserves I)
    (hh : ∀ e, (h e).Preserves I) : (p.onError h).Preserves I := by
  intro s hs
  refine ensures_onError (ensures_mono (hp s hs) fun r t ht => ?_)
  cases r with
  | ok a => exact ht
  | error e => exact ensures_mono (hh e t ht) fun r u hu => by cases r <;> exact hu

theorem preserves_each {f : β → Prog σ ε Unit} {xs : List β} (hf : ∀ x, (f x).Preserves I) :
    (each xs f).Preserves I :=
  fun _ hs => ensures_each hs fun x _ => hf x

theorem preserves_perform {e : ε} {act : σ → α × σ} (h : ∀ s, I s → I (act s).2) :
    (perform e act).Preserves I :=
  fun s hs => ensures_perform (h s hs) fun _ => hs

/-- A property of a view is kept by what leaves the view alone. -/
theorem preserves_of_frames {A : Type} {view : σ → A} {J : A → Prop} {p : Prog σ ε α}
    (hp : p.Frames view) : p.Preserves fun s => J (view s) := by
  intro s hs
  refine ensures_mono (ensures_of_frames hp s) fun r t ht => ?_
  change J (view t)
  rw [ht]
  exact hs

end Preserves

/-! ### Upheld properties -/

/-- Every access keeps the property of the store, from wherever the property
    holds, and what the program returns satisfies `R`. The accesses need not
    follow one another, so this says more than `Preserves`: whatever else
    happens to the store in between, as long as it keeps the property too, the
    program keeps it. -/
def Upholds (I : σ → Prop) (R : α → Prop) : Prog σ ε α → Prop
  | done a => R a
  | raise _ => True
  | access act next fail =>
    (∀ s, I s → I (act s).2 ∧ (next (act s).1).Upholds I R) ∧ fail.Upholds I R

section Upholds

variable {I : σ → Prop} {R : α → Prop} {R' : β → Prop}

theorem upholds_bind {p : Prog σ ε α} {f : α → Prog σ ε β} (hp : p.Upholds I R)
    (hf : ∀ a, R a → (f a).Upholds I R') : (p.bind f).Upholds I R' := by
  induction p with
  | done a => exact hf a hp
  | raise e => exact trivial
  | access act next fail ihn ihf =>
      exact ⟨fun s hs => ⟨(hp.1 s hs).1, ihn _ (hp.1 s hs).2⟩, ihf hp.2⟩

theorem upholds_rescue {p : Prog σ ε α} {h : ε → Prog σ ε α} (hp : p.Upholds I R)
    (hh : ∀ e, (h e).Upholds I R) : (p.rescue h).Upholds I R := by
  induction p with
  | done a => exact hp
  | raise e => exact hh e
  | access act next fail ihn ihf =>
      exact ⟨fun s hs => ⟨(hp.1 s hs).1, ihn _ (hp.1 s hs).2⟩, ihf hp.2⟩

theorem upholds_onError {p : Prog σ ε α} {h : ε → Prog σ ε Unit} (hp : p.Upholds I R)
    (hh : ∀ e, (h e).Upholds I fun _ => True) : (p.onError h).Upholds I R :=
  upholds_rescue hp fun e => upholds_bind (hh e) fun _ _ => trivial

theorem upholds_mono {R'' : α → Prop} {p : Prog σ ε α} (hp : p.Upholds I R)
    (hR : ∀ a, R a → R'' a) : p.Upholds I R'' := by
  induction p with
  | done a => exact hR a hp
  | raise e => exact trivial
  | access act next fail ihn ihf =>
      exact ⟨fun s hs => ⟨(hp.1 s hs).1, ihn _ (hp.1 s hs).2⟩, ihf hp.2⟩

theorem upholds_trivial (p : Prog σ ε α) : p.Upholds (fun _ => True) fun _ => True := by
  induction p with
  | done a => exact trivial
  | raise e => exact trivial
  | access act next fail ihn ihf => exact ⟨fun _ _ => ⟨trivial, ihn _⟩, ihf⟩

theorem upholds_perform {e : ε} {act : σ → α × σ} (h : ∀ s, I s → I (act s).2 ∧ R (act s).1) :
    (perform e act).Upholds I R :=
  ⟨h, trivial⟩

theorem upholds_require {ok : Bool} {e : ε} {R'' : Unit → Prop} (h : ok = true → R'' ()) :
    (require ok e : Prog σ ε Unit).Upholds I R'' := by
  cases ok with
  | true => exact h rfl
  | false => exact trivial

theorem upholds_demand {o : Option α} {e : ε} (h : ∀ a, o = some a → R a) :
    (demand o e : Prog σ ε α).Upholds I R := by
  cases o with
  | some a => exact h a rfl
  | none => exact trivial

theorem upholds_compute {result : Except ε α} (h : ∀ a, result = .ok a → R a) :
    (compute result : Prog σ ε α).Upholds I R := by
  cases result with
  | ok a => exact h a rfl
  | error e => exact trivial

theorem upholds_each {f : β → Prog σ ε Unit} {xs : List β}
    (hf : ∀ x ∈ xs, (f x).Upholds I fun _ => True) : (each xs f).Upholds I fun _ => True := by
  induction xs with
  | nil => exact trivial
  | cons x xs ih =>
      -- Bodies return nothing that the next ones would need.
      refine upholds_bind (hf x (List.mem_cons_self ..)) fun _ _ => ?_
      exact ih fun y hy => hf y (List.mem_cons_of_mem _ hy)

/-- A property of a view is upheld by what leaves the view alone. -/
theorem upholds_of_frames {A : Type} {view : σ → A} {J : A → Prop} {p : Prog σ ε α}
    (hp : p.Frames view) : p.Upholds (fun s => J (view s)) fun _ => True := by
  induction p with
  | done a => exact trivial
  | raise e => exact trivial
  | access act next fail ihn ihf =>
      refine ⟨fun s hs => ⟨?_, ihn _ (hp.2.1 _)⟩, ihf hp.2.2⟩
      -- The access may be made in any store with the property.
      change J (view (act s).2)
      rw [hp.1 s]
      exact hs

theorem ensures_of_upholds {p : Prog σ ε α} {s : σ} (hp : p.Upholds I R) (hs : I s) :
    p.Ensures C s fun r t => I t ∧ ∀ a, r = .ok a → R a := by
  induction p generalizing s with
  | done a => exact ⟨hs, fun b h => Except.ok.inj h ▸ hp⟩
  | raise e => exact ⟨hs, fun b h => nomatch h⟩
  | access act next fail ihn ihf =>
      exact ⟨ihn _ (hp.1 s hs).2 (hp.1 s hs).1, fun _ => ihf hp.2 hs⟩

end Upholds

/-! ### Ends under any refusals -/

/-- The program can end with the result and the store, some accesses refused. -/
def Ends : Prog σ ε α → σ → Except ε α → σ → Prop
  | done a, s, r, t => .ok a = r ∧ s = t
  | raise e, s, r, t => .error e = r ∧ s = t
  | access act next fail, s, r, t => (next (act s).1).Ends (act s).2 r t ∨ fail.Ends s r t

theorem ends_iff_run (p : Prog σ ε α) (s : σ) (r : Except ε α) (t : σ) :
    p.Ends s r t ↔ ∃ o, (p.run o s).1 = r ∧ (p.run o s).2.1 = t := by
  induction p generalizing s with
  | done a => exact ⟨fun h => ⟨calm, h⟩, fun ⟨_, h⟩ => h⟩
  | raise e => exact ⟨fun h => ⟨calm, h⟩, fun ⟨_, h⟩ => h⟩
  | access act next fail ihn ihf =>
      simp only [Ends, ihn, ihf, run]
      constructor
      · rintro (⟨o, h⟩ | ⟨o, h⟩)
        · -- The first access is answered.
          exact ⟨fun | 0 => false | n + 1 => o n, h⟩
        · -- The first access is refused.
          exact ⟨fun | 0 => true | n + 1 => o n, h⟩
      · rintro ⟨o, h⟩
        by_cases ho : o 0
        · rw [if_pos ho] at h
          exact Or.inr ⟨_, h⟩
        · rw [if_neg ho] at h
          exact Or.inl ⟨_, h⟩

theorem ends_run (p : Prog σ ε α) (o : Nat → Bool) (s : σ) :
    p.Ends s (p.run o s).1 (p.run o s).2.1 :=
  (ends_iff_run ..).mpr ⟨o, rfl, rfl⟩

theorem ends_eval (p : Prog σ ε α) (s : σ) : p.Ends s (p.eval s).1 (p.eval s).2 := by
  have hcalm := ends_run p calm s
  rwa [run_calm] at hcalm

theorem ends_bind_ok {p : Prog σ ε α} {f : α → Prog σ ε β} {s t u : σ} {a : α}
    {r : Except ε β} (hp : p.Ends s (.ok a) t) (hf : (f a).Ends t r u) :
    (p.bind f).Ends s r u := by
  induction p generalizing s with
  | done b =>
      rcases hp with ⟨hb, rfl⟩
      obtain rfl := Except.ok.inj hb
      exact hf
  | raise e => exact nomatch hp.1
  | access act next fail ihn ihf => exact hp.imp (ihn _) ihf

theorem ends_bind_error {p : Prog σ ε α} {f : α → Prog σ ε β} {s t : σ} {e : ε}
    (hp : p.Ends s (.error e) t) : (p.bind f).Ends s (.error e) t := by
  induction p generalizing s with
  | done b => exact nomatch hp.1
  | raise e' =>
      rcases hp with ⟨he, rfl⟩
      obtain rfl := Except.error.inj he
      exact ⟨rfl, rfl⟩
  | access act next fail ihn ihf => exact hp.imp (ihn _) ihf

theorem ends_rescue_ok {p : Prog σ ε α} {h : ε → Prog σ ε α} {s t : σ} {a : α}
    (hp : p.Ends s (.ok a) t) : (p.rescue h).Ends s (.ok a) t := by
  induction p generalizing s with
  | done b => exact hp
  | raise e => exact nomatch hp.1
  | access act next fail ihn ihf => exact hp.imp (ihn _) ihf

theorem ends_rescue_error {p : Prog σ ε α} {h : ε → Prog σ ε α} {s t u : σ} {e : ε}
    {r : Except ε α} (hp : p.Ends s (.error e) t) (hh : (h e).Ends t r u) :
    (p.rescue h).Ends s r u := by
  induction p generalizing s with
  | done b => exact nomatch hp.1
  | raise e' =>
      rcases hp with ⟨he, rfl⟩
      obtain rfl := Except.error.inj he
      exact hh
  | access act next fail ihn ihf => exact hp.imp (ihn _) ihf

/-- The program as one access that runs it against a pattern. -/
def against (o : Nat → Bool) (p : Prog σ ε α) : Prog σ ε α :=
  access (fun s => ((p.run o s).1, (p.run o s).2.1)) compute p

theorem eval_against (o : Nat → Bool) (p : Prog σ ε α) (s : σ) :
    (p.against o).eval s = ((p.run o s).1, (p.run o s).2.1) := by
  unfold against
  rw [eval]
  cases (p.run o s).1 <;> rfl

theorem ensures_against {p : Prog σ ε α} {o : Nat → Bool} {s : σ} {Q : Except ε α → σ → Prop}
    (h : Q (p.run o s).1 (p.run o s).2.1) : (p.against o).Ensures False s Q := by
  rw [ensures_false_iff, eval_against]
  exact h

/-- Evaluating `q` is one of the ends of `p`, its result read through `g`. -/
def EndsLike (g : β → α) (p : Prog σ ε α) (q : Prog σ ε β) : Prop :=
  ∀ s, p.Ends s ((q.eval s).1.map g) (q.eval s).2

theorem endsLike_bind {γ δ : Type} {g : β → α} {g' : δ → γ} {p : Prog σ ε α} {q : Prog σ ε β}
    {f : α → Prog σ ε γ} {f' : β → Prog σ ε δ} (hp : EndsLike g p q)
    (hf : ∀ b, EndsLike g' (f (g b)) (f' b)) : EndsLike g' (p.bind f) (q.bind f') := by
  intro s
  have hps := hp s
  rcases hq : q.eval s with ⟨r, t⟩
  rw [hq] at hps
  -- The second part is compared where the first one has ended.
  cases r with
  | ok b =>
      rw [eval_bind_ok hq]
      exact ends_bind_ok hps (hf b t)
  | error e =>
      rw [eval_bind_error hq]
      exact ends_bind_error hps

theorem endsLike_rescue {g : β → α} {p : Prog σ ε α} {q : Prog σ ε β} {h : ε → Prog σ ε α}
    {h' : ε → Prog σ ε β} (hp : EndsLike g p q) (hh : ∀ e, EndsLike g (h e) (h' e)) :
    EndsLike g (p.rescue h) (q.rescue h') := by
  intro s
  have hps := hp s
  rw [eval_rescue]
  rcases hq : q.eval s with ⟨r, t⟩
  rw [hq] at hps
  cases r with
  | ok b => exact ends_rescue_ok hps
  | error e => exact ends_rescue_error hps (hh e t)

theorem endsLike_done {g : β → α} {a : α} {b : β} (h : g b = a) :
    EndsLike g (done a : Prog σ ε α) (done b) :=
  fun _ => ⟨congrArg Except.ok h.symm, rfl⟩

/-- The result may be read through `f` first. -/
theorem endsLike_map {γ : Type} {g : β → α} {g' : γ → α} {f : β → γ} {p : Prog σ ε α}
    {q : Prog σ ε β} (hp : EndsLike g p q) (hf : ∀ b, g' (f b) = g b) :
    EndsLike g' p (q.bind fun b => done (f b)) := by
  intro s
  have hps := hp s
  rcases hq : q.eval s with ⟨r, t⟩
  rw [hq] at hps
  cases r with
  | ok b =>
      rw [eval_bind_ok hq, eval_done, Except.map, hf]
      exact hps
  | error e =>
      rw [eval_bind_error hq]
      exact hps

theorem endsLike_self (p : Prog σ ε α) : EndsLike id p p := by
  intro s
  have hend := ends_eval p s
  rcases heval : p.eval s with ⟨r, t⟩
  rw [heval] at hend
  cases r <;> exact hend

theorem endsLike_against (o : Nat → Bool) (p : Prog σ ε α) : EndsLike id p (p.against o) := by
  intro s
  have hend := ends_run p o s
  rw [eval_against]
  cases hr : (p.run o s).1 with
  | ok a =>
      rw [hr] at hend
      exact hend
  | error e =>
      rw [hr] at hend
      exact hend

/-! ### Runs of many programs -/

/-- What one run against a pattern inherits from a postcondition. -/
theorem ensures_run {p : Prog σ ε α} {s : σ} {Q : Except ε α → σ → Prop} (h : p.Ensures C s Q)
    (o : Nat → Bool) (ho : o = calm ∨ C) : Q (p.run o s).1 (p.run o s).2.1 := by
  rcases ho with rfl | hc
  · rw [run_calm]
    -- Without refusals only the first halves of the conditions count.
    have hcalm : p.Ensures False s Q := by
      induction p generalizing s with
      | done a => exact h
      | raise e => exact h
      | access act next fail ihn _ => exact ⟨ihn _ h.1, False.elim⟩
    exact (ensures_false_iff p s Q).mp hcalm
  · have htrue : C = True := eq_true hc
    subst htrue
    exact (ensures_true_iff p s Q).mp h o

/-- The store after a sequence of calls, each run against its own pattern of
    refusals. What a call returns or throws is the caller's business. -/
def afterRun {κ : Type} (program : κ → Prog σ ε Unit) (run : List (κ × (Nat → Bool))) (s : σ) :
    σ :=
  run.foldl (fun t call => ((program call.1).run call.2 t).2.1) s

theorem afterRun_append {κ : Type} (program : κ → Prog σ ε Unit)
    (run run' : List (κ × (Nat → Bool))) (s : σ) :
    afterRun program (run ++ run') s = afterRun program run' (afterRun program run s) :=
  List.foldl_append

/-- What every call keeps, every run keeps. -/
theorem afterRun_invariant {κ : Type} {program : κ → Prog σ ε Unit} {P : κ → Prop} {I : σ → Prop}
    (hstep : ∀ call s, P call → I s → (program call).Ensures C s fun _ t => I t)
    (run : List (κ × (Nat → Bool))) :
    ∀ s, I s → (∀ call ∈ run, P call.1 ∧ (call.2 = calm ∨ C)) → I (afterRun program run s) := by
  -- Each call begins in the store that the one before has left.
  induction run with
  | nil => intro s hs _; exact hs
  | cons call run ih =>
      intro s hs hrun
      rcases hrun call (List.mem_cons_self ..) with ⟨hP, ho⟩
      have hone := ensures_run (hstep call.1 s hP hs) call.2 ho
      exact ih _ hone fun c hc => hrun c (List.mem_cons_of_mem _ hc)

section AlongRun

variable {κ : Type} {program : κ → Prog σ ε Unit} {I : σ → Prop}

/-- A property of every call of a run: of the call, the store it finds, whether
    it succeeds, and the store it leaves. -/
def AlongRun (program : κ → Prog σ ε Unit) (P : κ → σ → Bool → σ → Prop) :
    List (κ × (Nat → Bool)) → σ → Prop
  | [], _ => True
  | call :: run, s =>
    P call.1 s ((program call.1).run call.2 s).1.toBool ((program call.1).run call.2 s).2.1 ∧
      AlongRun program P run ((program call.1).run call.2 s).2.1

theorem alongRun_mono {P Q : κ → σ → Bool → σ → Prop} {run : List (κ × (Nat → Bool))} {s : σ}
    (hPQ : ∀ call ∈ run, ∀ s, P call.1 s ((program call.1).run call.2 s).1.toBool
        ((program call.1).run call.2 s).2.1 →
      Q call.1 s ((program call.1).run call.2 s).1.toBool ((program call.1).run call.2 s).2.1)
    (h : AlongRun program P run s) : AlongRun program Q run s := by
  induction run generalizing s with
  | nil => exact trivial
  | cons call run ih =>
      refine ⟨hPQ call (List.mem_cons_self ..) s h.1, ih (fun c hc => ?_) h.2⟩
      exact hPQ c (List.mem_cons_of_mem _ hc)

/-- Calls that meet a condition where they are made keep an invariant, and the
    invariant gives them a property. -/
theorem alongRun_invariant {P : κ → σ → Prop} {Q : κ → σ → Bool → σ → Prop}
    {run : List (κ × (Nat → Bool))} {s : σ}
    (hstep : ∀ call ∈ run, ∀ s, P call.1 s → I s →
      (program call.1).Ensures C s fun r t => Q call.1 s r.toBool t ∧ I t)
    (hcalm : ∀ call ∈ run, call.2 = calm ∨ C) (hs : I s)
    (hP : AlongRun program (fun call s _ _ => P call s) run s) :
    AlongRun program Q run s ∧ I (afterRun program run s) := by
  induction run generalizing s with
  | nil => exact ⟨trivial, hs⟩
  | cons call run ih =>
      have hmem : call ∈ call :: run := List.mem_cons_self ..
      have hone := ensures_run (hstep call hmem s hP.1 hs) call.2 (hcalm call hmem)
      have hrest := ih (fun c hc => hstep c (List.mem_cons_of_mem _ hc))
        (fun c hc => hcalm c (List.mem_cons_of_mem _ hc)) hone.2 hP.2
      exact ⟨⟨hone.1, hrest.1⟩, hrest.2⟩

/-- When the calls that meet the condition are just those that have the
    property, so are the runs. -/
theorem alongRun_iff {P : κ → σ → Prop} {Q : κ → σ → Bool → σ → Prop}
    {run : List (κ × (Nat → Bool))} {s : σ}
    (hstep : ∀ call ∈ run, ∀ s, P call.1 s → I s →
      (program call.1).Ensures C s fun r t => Q call.1 s r.toBool t ∧ I t)
    (hbreak : ∀ call ∈ run, ∀ s, ¬P call.1 s → I s →
      (program call.1).Ensures C s fun r t => ¬Q call.1 s r.toBool t)
    (hcalm : ∀ call ∈ run, call.2 = calm ∨ C) (hs : I s) :
    AlongRun program Q run s ↔ AlongRun program (fun call s _ _ => P call s) run s := by
  constructor
  · intro hQ
    induction run generalizing s with
    | nil => exact trivial
    | cons call run ih =>
        have hmem : call ∈ call :: run := List.mem_cons_self ..
        have hP : P call.1 s := by
          -- A call that misses the condition breaks the property at once.
          by_contra hnot
          exact ensures_run (hbreak call hmem s hnot hs) call.2 (hcalm call hmem) hQ.1
        have hone := ensures_run (hstep call hmem s hP hs) call.2 (hcalm call hmem)
        exact ⟨hP, ih (fun c hc => hstep c (List.mem_cons_of_mem _ hc))
          (fun c hc => hbreak c (List.mem_cons_of_mem _ hc))
          (fun c hc => hcalm c (List.mem_cons_of_mem _ hc)) hone.2 hQ.2⟩
  · exact fun hP => (alongRun_invariant hstep hcalm hs hP).1

end AlongRun

end Prog

end Core
