import SvmCourse.Core.Sched

/-!
# Calls That Wait for One Another

A schedule in which no call gets past its first access while another one is
midway. Most methods begin by reading what they decide on and are refused at
once when it forbids them to go on, so this asks of a method that is allowed to
go on that nobody else is at it. Calls that only read and are rejected in the
end need not wait and need not be waited for; they stay aside.

Such a schedule ends as if the calls had been made one after the other. The
log says so: it has an entry for every call that was started, with what the
call came to, and a law tells how the log and the store go together when a call
is started, when a whole call is evaluated, and when a call is turned away by
its first access, wherever the others have got to.

## Main definitions

* `Idles`: The program only reads, and is rejected.
* `Thread.proceeds`: The next access of the call is its first and not its last.
* `SerialLaw`: How the log and the store go together.
* `Serial`: A pool between two evaluations, or in one.

## Theorems

* `serial_after`: Calls that wait for one another keep to the law.
* `serial_quiet`: Between evaluations the law speaks of the store itself.
-/

namespace Core

namespace Prog

variable {σ ε α : Type}

/-- Whatever it finds in stores with the property, the program changes nothing
    and is rejected in the end. -/
def Idles (I : σ → Prop) : Prog σ ε α → Prop
  | done _ => False
  | raise _ => True
  | access act next _ => ∀ s, I s → (act s).2 = s ∧ (next (act s).1).Idles I

theorem outcome_of_idles {I : σ → Prop} {p : Prog σ ε α} (hp : p.Idles I)
    (h : p.unfinished = false) : ∃ e, p.outcome = some (.error e) := by
  cases p with
  | done a => exact hp.elim
  | raise e => exact ⟨e, rfl⟩
  | access act next fail => exact nomatch h

end Prog

namespace Sched

open Prog Machine

variable {σ ε κ : Type}

/-- The call with what it has come to. -/
def Thread.entry (thread : Thread σ ε κ) : κ × Option (Except ε Unit) :=
  (thread.call, thread.rest.outcome)

/-- The next access of the call is its first, and there is more to come. -/
def Thread.proceeds (thread : Thread σ ε κ) (store : σ) : Bool :=
  thread.made = 0 && (thread.rest.next store).1.unfinished

/-- The call stays aside, or is not between two of its accesses. -/
def Thread.Quiet (Aside : κ → Prop) (thread : Thread σ ε κ) : Prop :=
  Aside thread.call ∨ thread.midway = false

section Serial

variable {program : κ → Prog σ ε Unit} {P : Move κ → Pool σ ε κ → Prop}
  {Inv : List (κ × Option (Except ε Unit)) → σ → Prop} {Fixed : σ → Prop} {Aside : κ → Prop}

/-- How the log and the store go together, for moves that meet `P`. No access
    changes `Fixed`, and that makes the calls `Aside` harmless. -/
structure SerialLaw (program : κ → Prog σ ε Unit) (P : Move κ → Pool σ ε κ → Prop)
    (Fixed : σ → Prop) (Aside : κ → Prop)
    (Inv : List (κ × Option (Except ε Unit)) → σ → Prop) : Prop where
  unfinished : ∀ call, (program call).unfinished = true
  keeps : ∀ call, (program call).Upholds Fixed fun _ => True
  idles : ∀ call, Aside call → (program call).Idles Fixed
  waits : ∀ (pool : Pool σ ε κ) i call, P (.access i) pool → ¬Aside call →
    pool.threads[i]? = some (Thread.begin program call) →
    (Thread.begin program call).proceeds pool.store = true →
    ∀ other ∈ pool.threads, other.Quiet Aside
  start : ∀ (pool : Pool σ ε κ) call s, P (.start call) pool →
    Inv (pool.threads.map Thread.entry) s →
    Inv (pool.threads.map Thread.entry ++ [(call, none)]) s
  finish : ∀ log call log' s r t, ¬Aside call → (program call).eval s = (r, t) →
    Inv (log ++ (call, none) :: log') s → Inv (log ++ (call, some r) :: log') t
  refuse : ∀ log call log' s t r, ¬Aside call → ((program call).next t).1.outcome = some r →
    Inv (log ++ (call, none) :: log') s →
    ((program call).next t).2 = t ∧ Inv (log ++ (call, some r) :: log') s
  reject : ∀ log call log' s e, Inv (log ++ (call, none) :: log') s →
    Inv (log ++ (call, some (.error e)) :: log') s

/-- The law holds of the log and the store `s`, which is the store of the pool
    unless a call is midway; and a call that is midway will end as if it were
    evaluated from `s`. -/
structure SerialAt (program : κ → Prog σ ε Unit) (Fixed : σ → Prop) (Aside : κ → Prop)
    (Inv : List (κ × Option (Except ε Unit)) → σ → Prop) (pool : Pool σ ε κ) (s : σ) : Prop where
  log : Inv (pool.threads.map Thread.entry) s
  fixed : Fixed pool.store
  keeps : ∀ thread ∈ pool.threads, thread.rest.Upholds Fixed fun _ => True
  idles : ∀ thread ∈ pool.threads, Aside thread.call → thread.rest.Idles Fixed
  fresh : ∀ thread ∈ pool.threads, thread.made = 0 → thread = Thread.begin program thread.call
  quiet : (∀ thread ∈ pool.threads, thread.Quiet Aside) → pool.store = s
  midway : ∀ thread ∈ pool.threads, ¬thread.Quiet Aside →
    thread.rest.eval pool.store = (program thread.call).eval s
  one : pool.threads.Pairwise fun a b => a.Quiet Aside ∨ b.Quiet Aside

/-- The invariant holds of a state that the threads share. -/
def Serial (program : κ → Prog σ ε Unit) (Fixed : σ → Prop) (Aside : κ → Prop)
    (Inv : List (κ × Option (Except ε Unit)) → σ → Prop) (pool : Pool σ ε κ) : Prop :=
  ∃ s, SerialAt program Fixed Aside Inv pool s

section Threads

variable {before after : List (Thread σ ε κ)} {thread thread' : Thread σ ε κ}

theorem others_quiet (h : (before ++ thread :: after).Pairwise fun a b =>
    a.Quiet Aside ∨ b.Quiet Aside) (hbusy : ¬thread.Quiet Aside) :
    ∀ other ∈ before ++ after, other.Quiet Aside := by
  rcases List.pairwise_append.mp h with ⟨-, hafter, hcross⟩
  intro other hother
  rcases List.mem_append.mp hother with hmem | hmem
  · -- Of two threads one is quiet, and this one is not.
    exact (hcross other hmem thread (List.mem_cons_self ..)).resolve_right hbusy
  · exact ((List.pairwise_cons.mp hafter).1 other hmem).resolve_left hbusy

theorem one_replace (h : (before ++ thread :: after).Pairwise fun a b =>
    a.Quiet Aside ∨ b.Quiet Aside)
    (hquiet : thread'.Quiet Aside ∨ ∀ other ∈ before ++ after, other.Quiet Aside) :
    (before ++ thread' :: after).Pairwise fun a b => a.Quiet Aside ∨ b.Quiet Aside := by
  rcases List.pairwise_append.mp h with ⟨hbefore, hafter, hcross⟩
  -- The new thread is quiet, or all others are.
  have hothers : ∀ other ∈ before ++ after, other.Quiet Aside ∨ thread'.Quiet Aside := by
    intro other hother
    rcases hquiet with hthread | hall
    · exact Or.inr hthread
    · exact Or.inl (hall other hother)
  refine List.pairwise_append.mpr ⟨hbefore, List.pairwise_cons.mpr ⟨?_, ?_⟩, ?_⟩
  · exact fun b hb => (hothers b (List.mem_append_right _ hb)).symm
  · exact (List.pairwise_cons.mp hafter).2
  · intro a ha b hb
    rcases List.mem_cons.mp hb with rfl | hb
    · exact hothers a (List.mem_append_left _ ha)
    · exact hcross a ha b (List.mem_cons_of_mem _ hb)

theorem mem_replace {P : Thread σ ε κ → Prop} (h : ∀ other ∈ before ++ thread :: after, P other)
    (hnew : P thread') : ∀ other ∈ before ++ thread' :: after, P other := by
  intro other hother
  rcases List.mem_append.mp hother with hmem | hmem
  · exact h other (List.mem_append_left _ hmem)
  · rcases List.mem_cons.mp hmem with rfl | hmem
    · exact hnew
    · exact h other (List.mem_append_right _ (List.mem_cons_of_mem _ hmem))

theorem mem_others {P : Thread σ ε κ → Prop} (h : ∀ other ∈ before ++ thread :: after, P other) :
    ∀ other ∈ before ++ after, P other := by
  intro other hother
  rcases List.mem_append.mp hother with hmem | hmem
  · exact h other (List.mem_append_left _ hmem)
  · exact h other (List.mem_append_right _ (List.mem_cons_of_mem _ hmem))

end Threads

theorem serial_nil {s : σ} (hfixed : Fixed s) (h : Inv [] s) :
    Serial program Fixed Aside Inv ⟨s, []⟩ :=
  ⟨s, {
    log := h
    fixed := hfixed
    keeps := fun _ hmem => absurd hmem List.not_mem_nil
    idles := fun _ hmem => absurd hmem List.not_mem_nil
    fresh := fun _ hmem => absurd hmem List.not_mem_nil
    quiet := fun _ => rfl
    midway := fun _ hmem => absurd hmem List.not_mem_nil
    one := List.Pairwise.nil }⟩

theorem serial_start (law : SerialLaw program P Fixed Aside Inv) {pool : Pool σ ε κ} {call : κ}
    (hP : P (.start call) pool) (h : Serial program Fixed Aside Inv pool) :
    Serial program Fixed Aside Inv
      { pool with threads := pool.threads ++ [Thread.begin program call] } := by
  rcases h with ⟨s, h⟩
  -- A call that has made no access is quiet.
  have hnew : (Thread.begin program call).Quiet Aside := Or.inr rfl
  have hadd : ∀ {Q : Thread σ ε κ → Prop}, (∀ thread ∈ pool.threads, Q thread) →
      Q (Thread.begin program call) →
      ∀ thread ∈ pool.threads ++ [Thread.begin program call], Q thread := fun hold hone =>
    List.forall_mem_append.mpr ⟨hold, fun thread hthread => List.mem_singleton.mp hthread ▸ hone⟩
  exact ⟨s, {
    log := by
      rw [List.map_append, List.map_singleton, Thread.entry]
      unfold Thread.begin
      rw [outcome_of_unfinished (law.unfinished call)]
      exact law.start pool call s hP h.log
    fixed := h.fixed
    keeps := hadd h.keeps (law.keeps call)
    idles := hadd h.idles (law.idles call)
    fresh := hadd h.fresh fun _ => rfl
    quiet := fun hquiet => h.quiet fun thread hthread =>
      hquiet thread (List.mem_append_left _ hthread)
    midway := hadd h.midway fun hbusy => absurd hnew hbusy
    one := by
      refine List.pairwise_append.mpr ⟨h.one, List.pairwise_singleton .., fun a _ b hb => ?_⟩
      rw [List.mem_singleton.mp hb]
      exact Or.inr hnew }⟩

section Access

variable {pool : Pool σ ε κ} {before after : List (Thread σ ε κ)} {call : κ} {made : Nat}
  {β : Type} {act : σ → β × σ} {next : β → Prog σ ε Unit} {fail : Prog σ ε Unit} {s : σ}

/-- What an access does to the parts of the invariant that do not depend on
    what the call is about. -/
theorem serialAt_access (h : SerialAt program Fixed Aside Inv pool s)
    (hthreads : pool.threads = before ++ ⟨call, made, .access act next fail⟩ :: after) :
    Fixed (act pool.store).2 ∧
    (∀ thread ∈ before ++ ⟨call, made + 1, next (act pool.store).1⟩ :: after,
      thread.rest.Upholds Fixed fun _ => True) ∧
    (∀ thread ∈ before ++ ⟨call, made + 1, next (act pool.store).1⟩ :: after,
      Aside thread.call → thread.rest.Idles Fixed) ∧
    ∀ thread ∈ before ++ ⟨call, made + 1, next (act pool.store).1⟩ :: after,
      thread.made = 0 → thread = Thread.begin program thread.call := by
  have hmem : (⟨call, made, .access act next fail⟩ : Thread σ ε κ) ∈ pool.threads :=
    hthreads ▸ List.mem_append_right _ (List.mem_cons_self ..)
  have hkeeps := (h.keeps _ hmem).1 pool.store h.fixed
  refine ⟨hkeeps.1, mem_replace (hthreads ▸ h.keeps) hkeeps.2,
    mem_replace (hthreads ▸ h.idles) fun haside => ?_,
    mem_replace (hthreads ▸ h.fresh) fun hzero => absurd hzero (Nat.succ_ne_zero made)⟩
  exact (h.idles _ hmem haside pool.store h.fixed).2

/-- The log with what the call has come to. -/
theorem entries_access (thread : Thread σ ε κ) {r : Option (Except ε Unit)}
    (hr : thread.rest.outcome = r) : (before ++ thread :: after).map Thread.entry =
      before.map Thread.entry ++ (thread.call, r) :: after.map Thread.entry := by
  rw [List.map_append, List.map_cons, Thread.entry, hr]

/-- A call that stays aside reads on, or is rejected. -/
theorem serial_aside (law : SerialLaw program P Fixed Aside Inv)
    (hthreads : pool.threads = before ++ ⟨call, made, .access act next fail⟩ :: after)
    (haside : Aside call) (h : SerialAt program Fixed Aside Inv pool s) :
    SerialAt program Fixed Aside Inv
      ⟨(act pool.store).2, before ++ ⟨call, made + 1, next (act pool.store).1⟩ :: after⟩ s := by
  have hparts := serialAt_access h hthreads
  have hmem : (⟨call, made, .access act next fail⟩ : Thread σ ε κ) ∈ pool.threads :=
    hthreads ▸ List.mem_append_right _ (List.mem_cons_self ..)
  have hidles := h.idles _ hmem haside pool.store h.fixed
  have hquiet : ∀ made rest, (⟨call, made, rest⟩ : Thread σ ε κ).Quiet Aside :=
    fun _ _ => Or.inl haside
  have hlog := h.log
  rw [hthreads, entries_access _ rfl] at hlog
  refine ⟨?_, hparts.1, hparts.2.1, hparts.2.2.1, hparts.2.2.2, fun hall => ?_, ?_,
    one_replace (hthreads ▸ h.one) (Or.inl (hquiet _ _))⟩
  · -- The log keeps its entry, or gets the rejection.
    cases hfinished : (next (act pool.store).1).unfinished with
    | true =>
        rw [entries_access _ (outcome_of_unfinished hfinished)]
        exact hlog
    | false =>
        rcases outcome_of_idles hidles.2 hfinished with ⟨e, he⟩
        rw [entries_access _ he]
        exact law.reject _ _ _ _ e hlog
  · -- It has changed nothing, so the store is as it was.
    rw [hidles.1]
    exact h.quiet (hthreads ▸ mem_replace hall (hquiet _ _))
  · rw [hidles.1]
    exact mem_replace (hthreads ▸ h.midway) fun hbusy => absurd (hquiet _ _) hbusy

/-- Whether it begins or goes on, a call that is not done afterwards is alone
    and ends as if evaluated from where it began. -/
theorem alone_of_unfinished (law : SerialLaw program P Fixed Aside Inv)
    (hP : P (.access before.length) pool)
    (hthreads : pool.threads = before ++ ⟨call, made, .access act next fail⟩ :: after)
    (haside : ¬Aside call) (h : SerialAt program Fixed Aside Inv pool s)
    (hunfinished : (next (act pool.store).1).unfinished = true) :
    (∀ other ∈ before ++ after, other.Quiet Aside) ∧
      (next (act pool.store).1).eval (act pool.store).2 = (program call).eval s := by
  have hmem : (⟨call, made, .access act next fail⟩ : Thread σ ε κ) ∈ pool.threads :=
    hthreads ▸ List.mem_append_right _ (List.mem_cons_self ..)
  cases made with
  -- It is midway, so all the others are quiet.
  | succ made =>
      have hbusy : ¬(⟨call, made + 1, .access act next fail⟩ : Thread σ ε κ).Quiet Aside :=
        fun hquiet => hquiet.elim haside fun hno => nomatch hno
      exact ⟨others_quiet (hthreads ▸ h.one) hbusy, h.midway _ hmem hbusy⟩
  -- It is about to get past its first access, so it has waited for the others.
  | zero =>
      have hbegin := h.fresh _ hmem rfl
      have hprogram : program call = .access act next fail := (congrArg Thread.rest hbegin).symm
      have hget : pool.threads[before.length]? = some (Thread.begin program call) := by
        rw [hthreads, hbegin]
        simp
      have hproceeds : (Thread.begin program call).proceeds pool.store = true := by
        unfold Thread.begin Thread.proceeds
        rw [hprogram]
        simp only [decide_true, Bool.true_and]
        exact hunfinished
      have hall := law.waits _ _ call hP haside hget hproceeds
      obtain rfl : pool.store = s := h.quiet hall
      refine ⟨mem_others (hthreads ▸ hall), ?_⟩
      rw [hprogram]
      rfl

/-- An access of a call that is not done afterwards. -/
theorem serial_unfinished (law : SerialLaw program P Fixed Aside Inv)
    (hP : P (.access before.length) pool)
    (hthreads : pool.threads = before ++ ⟨call, made, .access act next fail⟩ :: after)
    (haside : ¬Aside call) (h : SerialAt program Fixed Aside Inv pool s)
    (hunfinished : (next (act pool.store).1).unfinished = true) :
    SerialAt program Fixed Aside Inv
      ⟨(act pool.store).2, before ++ ⟨call, made + 1, next (act pool.store).1⟩ :: after⟩ s := by
  have hparts := serialAt_access h hthreads
  rcases alone_of_unfinished law hP hthreads haside h hunfinished with ⟨hothers, heval⟩
  -- The call is under way after this access, so it is the one that is not quiet.
  have hbusy : ¬(⟨call, made + 1, next (act pool.store).1⟩ : Thread σ ε κ).Quiet Aside := by
    rintro (hin | hdone)
    · exact haside hin
    · unfold Thread.midway at hdone
      rw [hunfinished, Bool.and_true, decide_eq_false_iff_not] at hdone
      exact hdone (Nat.succ_pos made)
  have hlog := h.log
  rw [hthreads, entries_access _ rfl] at hlog
  refine ⟨?_, hparts.1, hparts.2.1, hparts.2.2.1, hparts.2.2.2, fun hall => ?_, ?_,
    one_replace (hthreads ▸ h.one) (Or.inr hothers)⟩
  · rw [entries_access _ (outcome_of_unfinished hunfinished)]
    exact hlog
  · exact absurd (hall _ (List.mem_append_right _ (List.mem_cons_self ..))) hbusy
  · refine List.forall_mem_append.mpr ⟨fun other hmem hno => ?_, List.forall_mem_cons.mpr
      ⟨fun _ => heval, fun other hmem hno => ?_⟩⟩
    · exact absurd (hothers other (List.mem_append_left _ hmem)) hno
    · exact absurd (hothers other (List.mem_append_right _ hmem)) hno

/-- The last access of a call: its evaluation is over, or it is turned away by
    its first access. -/
theorem serial_finished (law : SerialLaw program P Fixed Aside Inv)
    (hthreads : pool.threads = before ++ ⟨call, made, .access act next fail⟩ :: after)
    (haside : ¬Aside call) (h : SerialAt program Fixed Aside Inv pool s)
    (hfinished : (next (act pool.store).1).unfinished = false) :
    Serial program Fixed Aside Inv
      ⟨(act pool.store).2, before ++ ⟨call, made + 1, next (act pool.store).1⟩ :: after⟩ := by
  have hparts := serialAt_access h hthreads
  have hmem : (⟨call, made, .access act next fail⟩ : Thread σ ε κ) ∈ pool.threads :=
    hthreads ▸ List.mem_append_right _ (List.mem_cons_self ..)
  rcases outcome_of_finished hfinished with ⟨r, hr⟩
  have hdone : (⟨call, made + 1, next (act pool.store).1⟩ : Thread σ ε κ).Quiet Aside := by
    refine Or.inr ?_
    unfold Thread.midway
    rw [hfinished, Bool.and_false]
  have hlog := h.log
  rw [hthreads, entries_access _ rfl] at hlog
  cases made with
  -- The evaluation from `s` ends here, and its store is the one to go on from.
  | succ made =>
      have hbusy : ¬(⟨call, made + 1, .access act next fail⟩ : Thread σ ε κ).Quiet Aside :=
        fun hquiet => hquiet.elim haside fun hno => nomatch hno
      have hothers := others_quiet (hthreads ▸ h.one) hbusy
      have heval : (program call).eval s = (r, (act pool.store).2) :=
        (h.midway _ hmem hbusy).symm.trans (eval_of_outcome hr _)
      refine ⟨(act pool.store).2, ?_, hparts.1, hparts.2.1, hparts.2.2.1, hparts.2.2.2,
        fun _ => rfl, ?_, one_replace (hthreads ▸ h.one) (Or.inl hdone)⟩
      · rw [entries_access _ hr]
        exact law.finish _ _ _ _ _ _ haside heval hlog
      · refine List.forall_mem_append.mpr ⟨fun other hmem hno => ?_, List.forall_mem_cons.mpr
          ⟨fun hno => absurd hdone hno, fun other hmem hno => ?_⟩⟩
        · exact absurd (hothers other (List.mem_append_left _ hmem)) hno
        · exact absurd (hothers other (List.mem_append_right _ hmem)) hno
  -- Turned away at once, it has changed nothing, whoever is midway.
  | zero =>
      have hprogram : program call = .access act next fail :=
        (congrArg Thread.rest (h.fresh _ hmem rfl)).symm
      have hnext : (program call).next pool.store =
          (next (act pool.store).1, (act pool.store).2) := by
        rw [hprogram]
        rfl
      rcases law.refuse _ _ _ _ pool.store r haside (hnext ▸ hr) hlog with ⟨hsame, hrefused⟩
      rw [hnext] at hsame
      have hstore : (act pool.store).2 = pool.store := hsame
      have hbegun : (⟨call, 0, .access act next fail⟩ : Thread σ ε κ).Quiet Aside := Or.inr rfl
      refine ⟨s, ?_, hparts.1, hparts.2.1, hparts.2.2.1, hparts.2.2.2, fun hall => ?_, ?_,
        one_replace (hthreads ▸ h.one) (Or.inl hdone)⟩
      · rw [entries_access _ hr]
        exact hrefused
      · rw [hstore]
        exact h.quiet (hthreads ▸ mem_replace hall hbegun)
      · rw [hstore]
        exact mem_replace (hthreads ▸ h.midway) fun hno => absurd hdone hno

theorem serial_access (law : SerialLaw program P Fixed Aside Inv)
    (hP : P (.access before.length) pool)
    (hthreads : pool.threads = before ++ ⟨call, made, .access act next fail⟩ :: after)
    (h : Serial program Fixed Aside Inv pool) :
    Serial program Fixed Aside Inv
      ⟨(act pool.store).2, before ++ ⟨call, made + 1, next (act pool.store).1⟩ :: after⟩ := by
  rcases h with ⟨s, h⟩
  by_cases haside : Aside call
  · exact ⟨s, serial_aside law hthreads haside h⟩
  · cases hfinished : (next (act pool.store).1).unfinished with
    | true => exact ⟨s, serial_unfinished law hP hthreads haside h hfinished⟩
    | false => exact serial_finished law hthreads haside h hfinished

end Access

/-- Calls that wait for one another keep to the law. -/
theorem serial_after (law : SerialLaw program P Fixed Aside Inv) {moves : List (Move κ)}
    {pool : Pool σ ε κ} (hpool : Serial program Fixed Aside Inv pool)
    (hP : Along (move program) (fun m pool _ _ => P m pool) moves pool) :
    Serial program Fixed Aside Inv (after (move program) moves pool) := by
  refine after_invariant (I := Serial program Fixed Aside Inv) (fun m pool hm hs => ?_) hpool hP
  rcases move_cases program pool m with hsame | ⟨call, rfl, hnew⟩ |
    ⟨before, call, made, β, act, next, fail, after, rfl, hthreads, hnew⟩
  · rw [hsame]
    exact hs
  · rw [hnew]
    exact serial_start law hm hs
  · rw [hnew]
    exact serial_access law hm hthreads hs

/-- When every call has returned, the law holds of the log and the store. -/
theorem serial_quiet {pool : Pool σ ε κ} (h : Serial program Fixed Aside Inv pool)
    (hreturned : ∀ thread ∈ pool.threads, thread.rest.unfinished = false) :
    Inv (pool.threads.map Thread.entry) pool.store := by
  rcases h with ⟨s, h⟩
  have hquiet : ∀ thread ∈ pool.threads, thread.Quiet Aside := by
    intro thread hthread
    refine Or.inr ?_
    unfold Thread.midway
    rw [hreturned thread hthread, Bool.and_false]
  rw [h.quiet hquiet]
  exact h.log

end Serial

end Sched

end Core
