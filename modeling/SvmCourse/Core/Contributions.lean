import Mathlib.Algebra.BigOperators.Group.List.Basic
import Mathlib.Algebra.Group.Int.Defs
import Mathlib.Tactic.Abel
import SvmCourse.Core.Histories

/-!
# Contributions

What calls have made of a store together, from what each of them has done.

A number that is read off the store has changed by the sum of what the accesses
have changed of it, in whatever order they came. So if each call adds to a count
what it is supposed to, the count is right, and if it is not, some access has
changed it by something else than it was supposed to.

A part of the store that only one call writes is, between its accesses, what it
has left there. So what such a part is in the end can be read off the history of
the call alone.

## Main definitions

* `change`: What the accesses of a call, or of all calls, have changed.
* `Threaded`: A part of the store as a history has found and left it.
* `Owned`: Each call has a part of the store to itself.

## Theorems

* `calls_after_access`: Accesses start no calls.
* `met_after`: Calls have made the accesses that their programs make.
* `threaded_kept`: What all accesses keep is kept.
* `change_after`: The change of the store is the change of all calls.
* `change_eq_countP`, `countP_le_change`: Counts grow by the calls that are
  counted.
* `owned_after`, `owned_accesses`: Calls that leave the parts of others alone own
  their parts.
-/

namespace Core

namespace Sched

open Prog Machine

variable {σ ε κ A K V : Type}

/-! ### Calls under way -/

theorem seen_live (s : σ) (w : Watched σ ε κ) : (w.live s).seen = w.seen := by
  unfold Watched.live
  split <;> rfl

theorem call_live (s : σ) (w : Watched σ ε κ) : (w.live s).call = w.call := by
  unfold Watched.live
  split <;> rfl

/-- Accesses start no calls. -/
theorem calls_record_access (program : κ → Prog σ ε Unit) (r : Recorded σ ε κ) (i : Nat) :
    (record program r (.access i)).2.calls.map Watched.call = r.calls.map Watched.call := by
  have hlive : ∀ s (calls : List (Watched σ ε κ)),
      (calls.map (Watched.live s)).map Watched.call = calls.map Watched.call := by
    intro s calls
    rw [List.map_map]
    exact List.map_congr_left fun w _ => call_live s w
  rcases record_cases program r (.access i) with hsame | ⟨call, hno, -⟩ |
    ⟨before, call, β, act, next, fail, seen, lived, after, -, hcalls, hnew⟩
  · rw [hsame]
  · -- An access is no start.
    exact nomatch hno
  · rw [hnew, hcalls]
    simp only [List.map_append, List.map_cons, hlive]

theorem calls_after_access (program : κ → Prog σ ε Unit) (moves : List Nat)
    (r : Recorded σ ε κ) :
    (after (record program) (moves.map Move.access) r).calls.map Watched.call =
      r.calls.map Watched.call := by
  induction moves generalizing r with
  | nil => rfl
  | cons i moves ih => rw [List.map_cons, after_cons, ih, calls_record_access]

/-- Calls before their first access have no histories. -/
theorem recalled_begin {program : κ → Prog σ ε Unit}
    {B C : κ → List (σ × σ) → σ → σ → Prop} {R : κ → List (σ × σ) → Except ε Unit → Prop}
    {Ext : σ → σ → Prop} {I : σ → Prop}
    (hprogram : ∀ call, (program call).Follows (watching (B call)) (R call) []) {s : σ}
    (h : I s) (calls : List κ) :
    Recalled B C R Ext I ⟨s, calls.map fun call => ⟨call, program call, [], []⟩⟩ where
  store := h
  calls w hw := by
    rcases List.mem_map.mp hw with ⟨call, -, rfl⟩
    exact remembered_begin hprogram call s

/-- Whatever the store is like, calls have made the accesses that their programs make. -/
theorem met_after {program : κ → Prog σ ε Unit} {B : κ → List (σ × σ) → σ → σ → Prop}
    {R : κ → List (σ × σ) → Except ε Unit → Prop}
    (hprogram : ∀ call, (program call).Follows (watching (B call)) (R call) [])
    (moves : List (Move κ)) (s : σ) :
    ∀ w ∈ (after (record program) moves ⟨s, []⟩).calls,
      Met B w.call w.seen ∧ w.rest.Follows (watching (B w.call)) (R w.call) w.seen := by
  have law : HistoryLaw B B (fun _ _ => True) (fun _ => True) :=
    ⟨fun _ => trivial, fun _ _ _ _ _ => trivial, fun _ _ _ _ _ _ _ _ _ => ⟨trivial, trivial⟩⟩
  have hafter : Recalled B B R (fun _ _ => True) (fun _ => True)
      (after (record program) moves ⟨s, []⟩) := by
    refine after_invariant (P := fun _ _ => True) (fun m r _ h => ?_) (recalled_start trivial)
      (along_of_forall (fun _ _ => trivial) moves _)
    refine (recalled_record law hprogram ?_ h).1
    cases m with
    | start call => exact trivial
    | access i =>
        rintro ⟨call, rest, seen, lived⟩ hw hunfinished
        -- The access that comes next is one the program makes.
        have hfollows := (h.calls _ (List.mem_of_getElem? hw)).follows
        cases rest with
        | done a => cases hunfinished
        | raise e => cases hunfinished
        | access act next fail =>
            obtain ⟨_, ⟨-, hB⟩, -⟩ := hfollows r.store trivial
            exact hB
  exact fun w hw => ⟨(hafter.calls w hw).met, (hafter.calls w hw).follows⟩

/-- What is remembered at the end, and how the store has gone on. -/
theorem extended_after {program : κ → Prog σ ε Unit}
    {B C : κ → List (σ × σ) → σ → σ → Prop} {R : κ → List (σ × σ) → Except ε Unit → Prop}
    {Ext : σ → σ → Prop} {I : σ → Prop} {r : Recorded σ ε κ} (law : HistoryLaw B C Ext I)
    (hprogram : ∀ call, (program call).Follows (watching (B call)) (R call) [])
    {moves : List (Move κ)} (h : Recalled B C R Ext I r)
    (hC : Along (record program) (fun m r _ _ => heeds C m r) moves r) :
    Recalled B C R Ext I (after (record program) moves r) ∧
      Ext r.store (after (record program) moves r).store := by
  -- Along with the histories, that the store has gone on since the beginning.
  refine after_invariant (I := fun q => Recalled B C R Ext I q ∧ Ext r.store q.store)
    (fun m q hm hq => ?_) ⟨h, law.refl _⟩ hC
  obtain ⟨hnext, hstep⟩ := recalled_record law hprogram hm hq.1
  exact ⟨hnext, law.trans _ _ _ hq.2 hstep⟩

/-! ### Sums of changes -/

section

variable [AddCommGroup A]

/-- What the accesses of a call have changed. -/
def Watched.change (μ : σ → A) (w : Watched σ ε κ) : A := (w.seen.map fun p => μ p.2 - μ p.1).sum

/-- What all calls together changed. -/
def Recorded.change (μ : σ → A) (r : Recorded σ ε κ) : A := (r.calls.map (Watched.change μ)).sum

theorem change_live (μ : σ → A) (s : σ) (calls : List (Watched σ ε κ)) :
    (calls.map (Watched.live s)).map (Watched.change μ) = calls.map (Watched.change μ) := by
  rw [List.map_map]
  refine List.map_congr_left fun w _ => ?_
  rw [Function.comp_apply, Watched.change, seen_live, Watched.change]

/-- A move changes the store by what it changes of the calls. -/
theorem change_record (μ : σ → A) (program : κ → Prog σ ε Unit) (r : Recorded σ ε κ)
    (m : Move κ) : μ (record program r m).2.store - (record program r m).2.change μ =
      μ r.store - r.change μ := by
  rcases record_cases program r m with hsame | ⟨call, rfl, hnew⟩ |
    ⟨before, call, β, act, next, fail, seen, lived, after, rfl, hcalls, hnew⟩
  · rw [hsame]
  · rw [hnew]
    simp only [Recorded.change, List.map_append, change_live, List.map_singleton,
      List.sum_append, List.sum_singleton]
    -- A new call has changed nothing.
    simp only [Watched.change, List.map_nil, List.sum_nil, add_zero]
  · rw [hnew, Recorded.change, Recorded.change, hcalls]
    simp only [List.map_append, List.map_cons, change_live, List.sum_append, List.sum_cons]
    simp only [Watched.change, List.map_append, List.map_singleton, List.sum_append,
      List.sum_singleton]
    -- The change of the access is on both sides.
    abel

/-- The store changes by what all calls have changed. -/
theorem change_after (μ : σ → A) (program : κ → Prog σ ε Unit) (moves : List (Move κ))
    (r : Recorded σ ε κ) :
    μ (after (record program) moves r).store - (after (record program) moves r).change μ =
      μ r.store - r.change μ := by
  induction moves generalizing r with
  | nil => rfl
  | cons m moves ih => rw [after_cons, ih, change_record]

end

/-- When calls of one kind add one each and others nothing, calls have added as
    much as there are of that kind. -/
theorem change_eq_countP {μ : σ → Int} {kind : Watched σ ε κ → Bool} {r : Recorded σ ε κ}
    (h : ∀ w ∈ r.calls, w.change μ = if kind w then 1 else 0) :
    r.change μ = r.calls.countP kind := by
  have hsum : ∀ calls : List (Watched σ ε κ), (∀ w ∈ calls, w.change μ = if kind w then 1 else 0) →
      (calls.map (Watched.change μ)).sum = calls.countP kind := by
    intro calls hcalls
    -- Call by call, one or nothing.
    induction calls with
    | nil => rfl
    | cons w calls ih =>
        obtain ⟨hw, hrest⟩ := List.forall_mem_cons.mp hcalls
        rw [List.map_cons, List.sum_cons, hw, ih hrest, List.countP_cons]
        split
        · push_cast
          exact Int.add_comm ..
        · exact Int.zero_add _
  exact hsum r.calls h

/-- When calls of one kind add one at least and others take nothing away, calls
    have added as much at least as there are of that kind. -/
theorem countP_le_change {μ : σ → Int} {kind : Watched σ ε κ → Bool}
    {calls : List (Watched σ ε κ)}
    (h : ∀ w ∈ calls, (if kind w then 1 else 0) ≤ w.change μ) :
    calls.countP kind ≤ (calls.map (Watched.change μ)).sum := by
  induction calls with
  | nil => exact Int.le_refl 0
  | cons w calls ih =>
      obtain ⟨hw, hrest⟩ := List.forall_mem_cons.mp h
      have hcalls := ih hrest
      rw [List.map_cons, List.sum_cons, List.countP_cons]
      -- A call of the kind counts for one and has added one, any other for none.
      split at hw
      · rw [if_pos ‹_›]
        push_cast
        omega
      · rw [if_neg ‹_›]
        push_cast
        omega

/-! ### Parts of the store -/

/-- Each access has found the part as the one before has left it. -/
def Threaded (v : σ → V) : V → List (σ × σ) → V → Prop
  | first, [], last => first = last
  | first, p :: seen, last => v p.1 = first ∧ Threaded v (v p.2) seen last

theorem threaded_append {v : σ → V} {first last : V} {seen : List (σ × σ)} {p : σ × σ} :
    Threaded v first (seen ++ [p]) last ↔ Threaded v first seen (v p.1) ∧ v p.2 = last := by
  induction seen generalizing first with
  | nil => exact ⟨fun h => ⟨h.1.symm, h.2⟩, fun h => ⟨h.1.symm, h.2⟩⟩
  | cons q seen ih =>
      rw [List.cons_append, Threaded, Threaded, ih, and_assoc]

/-- What the accesses of a history keep of a part of the store is at the end what
    it was at the beginning. -/
theorem threaded_kept {W : Type} (f : V → W) {v : σ → V} {first last : V} {seen : List (σ × σ)}
    (h : ∀ p ∈ seen, f (v p.2) = f (v p.1)) (hthreaded : Threaded v first seen last) :
    f last = f first := by
  -- From access to access, with what others do between them.
  induction seen generalizing first with
  | nil => exact congrArg f hthreaded.symm
  | cons p seen ih =>
      have hrest := ih (fun q hq => h q (List.mem_cons_of_mem _ hq)) hthreaded.2
      rw [hrest, h p (List.mem_cons_self ..), hthreaded.1]

/-- Calls have different keys, and what is at a key is what the call of that key
    has left there. -/
structure Owned (key : κ → K) (view : K → σ → V) (start : σ) (r : Recorded σ ε κ) : Prop where
  apart : r.calls.Pairwise fun w w' => key w.call ≠ key w'.call
  own : ∀ w ∈ r.calls, Threaded (view (key w.call)) (view (key w.call) start) w.seen
    (view (key w.call) r.store)
  rest : ∀ k, (∀ w ∈ r.calls, key w.call ≠ k) → view k r.store = view k start

section

variable {key : κ → K} {view : K → σ → V} {start : σ} {r : Recorded σ ε κ}
  {program : κ → Prog σ ε Unit} {B C : κ → List (σ × σ) → σ → σ → Prop}
  {R : κ → List (σ × σ) → Except ε Unit → Prop} {Ext : σ → σ → Prop} {I : σ → Prop}

/-- The calls before the first access, with different keys. -/
theorem owned_begin {calls : List κ} (program : κ → Prog σ ε Unit)
    (hkeys : (calls.map key).Nodup) :
    Owned key view start ⟨start, calls.map fun call => ⟨call, program call, [], []⟩⟩ where
  apart := by
    rw [List.pairwise_map]
    exact List.pairwise_map.mp hkeys
  own w hw := by
    rcases List.mem_map.mp hw with ⟨call, -, rfl⟩
    rfl
  rest _ _ := rfl

theorem pairwise_key {calls : List (Watched σ ε κ)} :
    (calls.Pairwise fun w w' => key w.call ≠ key w'.call) ↔
      (calls.map fun w => key w.call).Nodup :=
  List.pairwise_map.symm

/-- Which parts calls own depends on what they have seen. -/
theorem owned_of_seen {s : σ} {calls calls' : List (Watched σ ε κ)}
    (hsame : (calls'.map fun w => (w.call, w.seen)) = calls.map fun w => (w.call, w.seen))
    (h : Owned key view start ⟨s, calls⟩) : Owned key view start ⟨s, calls'⟩ := by
  -- The calls are the same, but for what they have lived through.
  have hfrom : ∀ w ∈ calls', ∃ v ∈ calls, v.call = w.call ∧ v.seen = w.seen := by
    intro w hw
    have hmem : (w.call, w.seen) ∈ calls.map fun w => (w.call, w.seen) :=
      hsame ▸ List.mem_map_of_mem hw
    obtain ⟨v, hv, heq⟩ := List.mem_map.mp hmem
    exact ⟨v, hv, congrArg Prod.fst heq, congrArg Prod.snd heq⟩
  have hto : ∀ v ∈ calls, ∃ w ∈ calls', w.call = v.call := by
    intro v hv
    have hmem : (v.call, v.seen) ∈ calls'.map fun w => (w.call, w.seen) :=
      hsame ▸ List.mem_map_of_mem hv
    obtain ⟨w, hw, heq⟩ := List.mem_map.mp hmem
    exact ⟨w, hw, congrArg Prod.fst heq⟩
  refine ⟨?_, fun w hw => ?_, fun k hk => h.rest k fun v hv => ?_⟩
  · have hkeys := congrArg (List.map fun p => key p.1) hsame
    rw [List.map_map, List.map_map] at hkeys
    exact pairwise_key.mpr ((congrArg List.Nodup hkeys).mpr (pairwise_key.mp h.apart))
  · obtain ⟨v, hv, hcall, hseen⟩ := hfrom w hw
    rw [← hcall, ← hseen]
    exact h.own v hv
  · obtain ⟨w, hw, hcall⟩ := hto v hv
    rw [← hcall]
    exact hk w hw

/-- A call of a new key has left nothing so far. -/
theorem owned_start {call : κ} (rest : Prog σ ε Unit)
    (hother : ∀ w ∈ r.calls, key w.call ≠ key call) (h : Owned key view start r) :
    Owned key view start ⟨r.store, r.calls ++ [⟨call, rest, [], []⟩]⟩ where
  apart := by
    refine List.pairwise_append.mpr ⟨h.apart, List.pairwise_singleton .., fun w hw w' hw' => ?_⟩
    rw [List.mem_singleton.mp hw']
    exact hother w hw
  own w hw := by
    rcases List.mem_append.mp hw with hw | hw
    · exact h.own w hw
    · -- Nobody had the key, so what is there was there at the start.
      rw [List.mem_singleton.mp hw]
      exact (h.rest (key call) hother).symm
  rest k hk := h.rest k fun w hw => hk w (List.mem_append_left _ hw)

/-- An access changes the part of its own call. -/
theorem owned_access {before after : List (Watched σ ε κ)} {call : κ} {rest : Prog σ ε Unit}
    {seen : List (σ × σ)} {lived : List σ} {t : σ} (next : Prog σ ε Unit)
    (hcalls : r.calls = before ++ ⟨call, rest, seen, lived⟩ :: after)
    (hother : ∀ k, k ≠ key call → view k t = view k r.store) (h : Owned key view start r) :
    Owned key view start ⟨t, before ++ ⟨call, next, seen ++ [(r.store, t)], lived⟩ :: after⟩ := by
  obtain ⟨hapart, hown, hrest⟩ := h
  rw [hcalls] at hapart hown hrest
  have hkeys : (before ++ ⟨call, next, seen ++ [(r.store, t)], lived⟩ :: after).Pairwise
      fun w w' => key w.call ≠ key w'.call := by
    rw [pairwise_key, List.map_append, List.map_cons] at hapart ⊢
    exact hapart
  refine ⟨hkeys, fun w hw => ?_, fun k hk => ?_⟩
  · obtain ⟨-, hafter, hcross⟩ := List.pairwise_append.mp hkeys
    rcases List.mem_append.mp hw with hmem | hmem
    · -- A call before it has another key.
      rw [hother _ (hcross w hmem _ (List.mem_cons_self ..))]
      exact hown w (List.mem_append_left _ hmem)
    · rcases List.mem_cons.mp hmem with rfl | hmem
      · -- The part was as the call has left it, and so the access has found it.
        have hself := hown ⟨call, rest, seen, lived⟩
          (List.mem_append_right _ (List.mem_cons_self ..))
        exact threaded_append.mpr ⟨hself, rfl⟩
      · rw [hother _ ((List.pairwise_cons.mp hafter).1 w hmem).symm]
        exact hown w (List.mem_append_right _ (List.mem_cons_of_mem _ hmem))
  · -- A key that no call has is not that of the access.
    have hcall : key call ≠ k := hk _ (List.mem_append_right _ (List.mem_cons_self ..))
    rw [hother k hcall.symm]
    refine hrest k fun w hw => ?_
    rcases List.mem_append.mp hw with hmem | hmem
    · exact hk w (List.mem_append_left _ hmem)
    · rcases List.mem_cons.mp hmem with rfl | hmem
      · exact hcall
      · exact hk w (List.mem_append_right _ (List.mem_cons_of_mem _ hmem))

theorem seen_map_live (s : σ) (calls : List (Watched σ ε κ)) :
    ((calls.map (Watched.live s)).map fun w => (w.call, w.seen)) =
      calls.map fun w => (w.call, w.seen) := by
  rw [List.map_map]
  refine List.map_congr_left fun w _ => ?_
  rw [Function.comp_apply, call_live, seen_live]

/-- A move keeps the parts apart. -/
theorem owned_record {m : Move κ}
    (hframe : ∀ call seen s t k, B call seen s t → k ≠ key call → view k t = view k s)
    (hfresh : ∀ call, m = .start call → ∀ w ∈ r.calls, key w.call ≠ key call)
    (hrecalled : Recalled B C R Ext I r) (h : Owned key view start r) :
    Owned key view start (record program r m).2 := by
  rcases record_cases program r m with hsame | ⟨call, rfl, hnew⟩ |
    ⟨before, call, β, act, next, fail, seen, lived, after, rfl, hcalls, hnew⟩
  · rw [hsame]
    exact h
  · rw [hnew]
    refine owned_of_seen ?_ (owned_start (program call) (hfresh call rfl) h)
    rw [List.map_append, List.map_append, seen_map_live]
  · have hself : (⟨call, .access act next fail, seen, lived⟩ : Watched σ ε κ) ∈ r.calls := by
      rw [hcalls]
      exact List.mem_append_right _ (List.mem_cons_self ..)
    -- What the access does is of the kind that leaves other keys alone.
    have hother : ∀ k, k ≠ key call → view k (act r.store).2 = view k r.store := by
      obtain ⟨seen', ⟨-, hkind⟩, -⟩ := (hrecalled.calls _ hself).follows r.store trivial
      exact fun k hk => hframe call seen r.store (act r.store).2 k hkind hk
    rw [hnew]
    refine owned_of_seen ?_ (owned_access (next (act r.store).1) hcalls hother h)
    rw [List.map_append, List.map_append, List.map_cons, List.map_cons, seen_map_live,
      seen_map_live]

/-- Calls that leave the parts of others alone own their parts after every
    schedule in which different calls have different keys. -/
theorem owned_after (law : HistoryLaw B C Ext I)
    (hprogram : ∀ call, (program call).Follows (watching (B call)) (R call) [])
    (hframe : ∀ call seen s t k, B call seen s t → k ≠ key call → view k t = view k s)
    {moves : List (Move κ)}
    (hfresh : Along (record program) (fun m r _ _ =>
      ∀ call, m = .start call → ∀ w ∈ r.calls, key w.call ≠ key call) moves r)
    (hC : Along (record program) (fun m r _ _ => heeds C m r) moves r)
    (hrecalled : Recalled B C R Ext I r) (h : Owned key view start r) :
    Owned key view start (after (record program) moves r) := by
  have hafter : Recalled B C R Ext I (after (record program) moves r) ∧
      Owned key view start (after (record program) moves r) := by
    have hboth := along_and hfresh hC
    refine after_invariant (I := fun q => Recalled B C R Ext I q ∧ Owned key view start q)
      (P := fun m q => (∀ call, m = .start call → ∀ w ∈ q.calls, key w.call ≠ key call) ∧
        heeds C m q) (fun m q hm hq => ?_) ⟨hrecalled, h⟩ hboth
    exact ⟨(recalled_record law hprogram hm.2 hq.1).1, owned_record hframe hm.1 hq.1 hq.2⟩
  exact hafter.2

/-- Accesses are made by the calls there are. -/
theorem owned_accesses (law : HistoryLaw B C Ext I)
    (hprogram : ∀ call, (program call).Follows (watching (B call)) (R call) [])
    (hframe : ∀ call seen s t k, B call seen s t → k ≠ key call → view k t = view k s)
    {moves : List Nat}
    (hC : Along (record program) (fun m r _ _ => heeds C m r) (moves.map Move.access) r)
    (hrecalled : Recalled B C R Ext I r) (h : Owned key view start r) :
    Owned key view start (after (record program) (moves.map Move.access) r) := by
  refine owned_after law hprogram hframe ?_ hC hrecalled h
  clear hC hrecalled h
  induction moves generalizing r with
  | nil => exact trivial
  | cons i moves ih => exact ⟨(fun _ h => nomatch h), ih⟩

end

end Sched

end Core
