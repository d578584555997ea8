import SvmCourse.Core.Sched

/-!
# Protocols

What a call promises the calls it shares the store with. A call is in some
phase. The phase says what it may rely on and what its next access may do, and
the access moves the call on. A program follows the protocol from a phase when
each of its accesses is one the protocol allows there, whatever has happened to
the store in between that the phase does not rule out.

No call carries its phase along. A pool keeps to the protocol when phases can
be found for its threads that go together with one another and with the store,
and a law says how starting a call and making an access keep them together.

## Main definitions

* `Protocol`: What phases may rely on and how accesses move them.
* `Follows`: A program follows the protocol from a phase.
* `ProtocolLaw`: How phases go together.
* `Phased`: Phases can be found for the threads of a pool.

## Theorems

* `follows_bind`, `follows_rescue`, `follows_each`: Programs built from others.
* `phased_after`: Calls that follow the protocol stay together.
-/

namespace Core

/-- What a call in a phase may rely on, and where an access that changes the
    store like this moves it. -/
structure Protocol (σ γ : Type) where
  sees : γ → σ → Prop
  advances : γ → (σ → σ) → σ → γ → Prop

namespace Prog

variable {σ ε α β γ : Type} {P : Protocol σ γ} {g : γ}

/-- From the phase on, every access is allowed, and what comes out of it in the
    phase reached then satisfies `R`. -/
def Follows (P : Protocol σ γ) (R : γ → Except ε α → Prop) : Prog σ ε α → γ → Prop
  | done a, g => R g (.ok a)
  | raise e, g => R g (.error e)
  | access act next _, g => ∀ s, P.sees g s →
    ∃ g', P.advances g (fun s => (act s).2) s g' ∧ (next (act s).1).Follows P R g'

theorem follows_mono {p : Prog σ ε α} {R R' : γ → Except ε α → Prop} (hp : p.Follows P R g)
    (hR : ∀ g r, R g r → R' g r) : p.Follows P R' g := by
  induction p generalizing g with
  | done a => exact hR _ _ hp
  | raise e => exact hR _ _ hp
  | access act next fail ihn ihf =>
      intro s hs
      rcases hp s hs with ⟨g', hg', hnext⟩
      exact ⟨g', hg', ihn _ hnext⟩

theorem follows_bind {p : Prog σ ε α} {f : α → Prog σ ε β} {R : γ → Except ε β → Prop}
    (hp : p.Follows P (fun g r => match r with
      | .ok a => (f a).Follows P R g
      | .error e => R g (.error e)) g) : (p.bind f).Follows P R g := by
  induction p generalizing g with
  | done a => exact hp
  | raise e => exact hp
  | access act next fail ihn ihf =>
      intro s hs
      rcases hp s hs with ⟨g', hg', hnext⟩
      exact ⟨g', hg', ihn _ hnext⟩

theorem follows_rescue {p : Prog σ ε α} {h : ε → Prog σ ε α} {R : γ → Except ε α → Prop}
    (hp : p.Follows P (fun g r => match r with
      | .ok a => R g (.ok a)
      | .error e => (h e).Follows P R g) g) : (p.rescue h).Follows P R g := by
  induction p generalizing g with
  | done a => exact hp
  | raise e => exact hp
  | access act next fail ihn ihf =>
      intro s hs
      rcases hp s hs with ⟨g', hg', hnext⟩
      exact ⟨g', hg', ihn _ hnext⟩

theorem follows_onError {p : Prog σ ε α} {h : ε → Prog σ ε Unit} {R : γ → Except ε α → Prop}
    (hp : p.Follows P (fun g r => match r with
      | .ok a => R g (.ok a)
      | .error e => (h e).Follows P (fun g r => match r with
        | .ok _ => R g (.error e)
        | .error e' => R g (.error e')) g) g) : (p.onError h).Follows P R g := by
  refine follows_rescue (follows_mono hp fun g r hr => ?_)
  cases r with
  | ok a => exact hr
  | error e =>
      refine follows_bind (follows_mono hr fun g r hr => ?_)
      cases r with
      | ok _ => exact hr
      | error e' => exact hr

theorem follows_perform {e : ε} {act : σ → α × σ} {R : γ → Except ε α → Prop}
    (h : ∀ s, P.sees g s → ∃ g', P.advances g (fun s => (act s).2) s g' ∧ R g' (.ok (act s).1)) :
    (perform e act).Follows P R g :=
  h

theorem follows_require {ok : Bool} {e : ε} {R : γ → Except ε Unit → Prop}
    (htrue : ok = true → R g (.ok ())) (hfalse : ok = false → R g (.error e)) :
    (require ok e : Prog σ ε Unit).Follows P R g := by
  cases ok with
  | true => exact htrue rfl
  | false => exact hfalse rfl

theorem follows_demand {o : Option α} {e : ε} {R : γ → Except ε α → Prop}
    (hsome : ∀ a, o = some a → R g (.ok a)) (hnone : o = none → R g (.error e)) :
    (demand o e : Prog σ ε α).Follows P R g := by
  cases o with
  | some a => exact hsome a rfl
  | none => exact hnone rfl

theorem follows_compute {result : Except ε α} {R : γ → Except ε α → Prop} (h : R g result) :
    (compute result : Prog σ ε α).Follows P R g := by
  cases result with
  | ok a => exact h
  | error e => exact h

/-- A loop keeps what ties the rest of the list to the phase. -/
theorem follows_each {f : β → Prog σ ε Unit} {J : List β → γ → Prop}
    {R : γ → Except ε Unit → Prop} (hstep : ∀ x rest g, J (x :: rest) g →
      (f x).Follows P (fun g r => match r with
        | .ok _ => J rest g
        | .error e => R g (.error e)) g)
    (hend : ∀ g, J [] g → R g (.ok ())) {xs : List β} (h : J xs g) :
    (each xs f).Follows P R g := by
  induction xs generalizing g with
  | nil => exact hend g h
  | cons x rest ih =>
      refine follows_bind (follows_mono (hstep x rest g h) fun g r hr => ?_)
      cases r with
      | ok _ => exact ih hr
      -- The loop ends with the error of its body.
      | error e => exact hr

theorem follows_outcome {p : Prog σ ε α} {R : γ → Except ε α → Prop} {r : Except ε α}
    (hp : p.Follows P R g) (h : p.outcome = some r) : R g r := by
  cases p with
  | done a => exact Option.some.inj h ▸ hp
  | raise e => exact Option.some.inj h ▸ hp
  | access act next fail => exact nomatch h

end Prog

namespace Sched

open Prog Machine

variable {σ ε κ γ : Type} {P : Protocol σ γ} {R : γ → Except ε Unit → Prop}
  {C : (σ → σ) → σ → Prop} {G : σ → List γ → Prop} {initial : γ}
  {program : κ → Prog σ ε Unit}

/-- How the phases of calls go together, for accesses that meet `C`. -/
structure ProtocolLaw (P : Protocol σ γ) (C : (σ → σ) → σ → Prop) (G : σ → List γ → Prop)
    (initial : γ) : Prop where
  sees : ∀ s before g after, G s (before ++ g :: after) → P.sees g s
  start : ∀ s phases, G s phases → G s (phases ++ [initial])
  advance : ∀ s before g after f g', G s (before ++ g :: after) → P.advances g f s g' → C f s →
    G (f s) (before ++ g' :: after)

/-- What the next access of the thread does to the store. -/
def Thread.write (thread : Thread σ ε κ) (s : σ) : σ := (thread.rest.next s).2

/-- An access meets the condition on what it does to the store it finds. -/
def meets (C : (σ → σ) → σ → Prop) : Move κ → Pool σ ε κ → Prop
  | .start _, _ => True
  | .access i, pool => ∀ thread ∈ pool.threads[i]?, C thread.write pool.store

instance {C : (σ → σ) → σ → Prop} [∀ f s, Decidable (C f s)] (m : Move κ) (pool : Pool σ ε κ) :
    Decidable (meets C m pool) :=
  match m with
  | .start _ => isTrue trivial
  | .access i => inferInstanceAs (Decidable (∀ thread ∈ pool.threads[i]?,
    C thread.write pool.store))

/-- The threads with phases that go together. -/
structure Tagged (P : Protocol σ γ) (R : γ → Except ε Unit → Prop) (G : σ → List γ → Prop)
    (pool : Pool σ ε κ) (tagged : List (Thread σ ε κ × γ)) : Prop where
  threads : tagged.map Prod.fst = pool.threads
  follows : ∀ entry ∈ tagged, entry.1.rest.Follows P R entry.2
  together : G pool.store (tagged.map Prod.snd)

/-- The threads of the pool can be tagged with their phases. -/
def Phased (P : Protocol σ γ) (R : γ → Except ε Unit → Prop) (G : σ → List γ → Prop)
    (pool : Pool σ ε κ) : Prop :=
  ∃ tagged, Tagged P R G pool tagged

theorem phased_nil {s : σ} (h : G s []) : Phased P R G (⟨s, []⟩ : Pool σ ε κ) :=
  ⟨[], rfl, fun _ hmem => absurd hmem List.not_mem_nil, h⟩

theorem phased_start (law : ProtocolLaw P C G initial)
    (hprogram : ∀ call, (program call).Follows P R initial) {pool : Pool σ ε κ}
    (h : Phased P R G pool) (call : κ) :
    Phased P R G { pool with threads := pool.threads ++ [Thread.begin program call] } := by
  rcases h with ⟨tagged, hthreads, hfollows, htogether⟩
  refine ⟨tagged ++ [(Thread.begin program call, initial)], ?_, ?_, ?_⟩
  · rw [List.map_append, hthreads, List.map_singleton]
  · refine List.forall_mem_append.mpr ⟨hfollows, fun entry hmem => ?_⟩
    rw [List.mem_singleton.mp hmem]
    exact hprogram call
  · -- A call that starts goes together with all phases.
    rw [List.map_append, List.map_singleton]
    exact law.start _ _ htogether

theorem phased_access (law : ProtocolLaw P C G initial) {pool : Pool σ ε κ}
    {before after : List (Thread σ ε κ)} {call : κ} {made : Nat} {β : Type} {act : σ → β × σ}
    {next : β → Prog σ ε Unit} {fail : Prog σ ε Unit}
    (hC : meets C (.access before.length) pool)
    (hthreads : pool.threads = before ++ ⟨call, made, .access act next fail⟩ :: after)
    (h : Phased P R G pool) :
    Phased P R G
      ⟨(act pool.store).2, before ++ ⟨call, made + 1, next (act pool.store).1⟩ :: after⟩ := by
  rcases h with ⟨tagged, htagged, hfollows, htogether⟩
  -- The phases are split where the threads are.
  rcases List.map_eq_append_iff.mp (htagged.trans hthreads) with ⟨bs, rest, rfl, hbs, hrest⟩
  rcases List.map_eq_cons_iff.mp hrest with ⟨⟨thread, g⟩, as, rfl, rfl, has⟩
  rw [List.map_append, List.map_cons] at htogether
  rcases List.forall_mem_append.mp hfollows with ⟨hbefore, hrests⟩
  rcases List.forall_mem_cons.mp hrests with ⟨hself, hafter⟩
  rcases hself pool.store (law.sees _ _ _ _ htogether) with ⟨g', hadvances, hnext⟩
  have hget : pool.threads[before.length]? = some ⟨call, made, .access act next fail⟩ := by
    rw [hthreads]
    simp
  refine ⟨bs ++ (⟨call, made + 1, next (act pool.store).1⟩, g') :: as, ?_, ?_, ?_⟩
  · rw [List.map_append, List.map_cons, hbs, has]
  · exact List.forall_mem_append.mpr ⟨hbefore, List.forall_mem_cons.mpr ⟨hnext, hafter⟩⟩
  · rw [List.map_append, List.map_cons]
    -- Only the phase of this call has changed.
    exact law.advance _ _ _ _ _ _ htogether hadvances (hC _ hget)

/-- Calls that follow the protocol stay together in every schedule whose
    accesses meet the condition. -/
theorem phased_after (law : ProtocolLaw P C G initial)
    (hprogram : ∀ call, (program call).Follows P R initial) {moves : List (Move κ)}
    {pool : Pool σ ε κ} (hpool : Phased P R G pool)
    (hC : Along (move program) (fun m pool _ _ => meets C m pool) moves pool) :
    Phased P R G (after (move program) moves pool) := by
  refine after_invariant (I := Phased P R G) (fun m pool hm hs => ?_) hpool hC
  rcases move_cases program pool m with hsame | ⟨call, rfl, hnew⟩ |
    ⟨before, call, made, β, act, next, fail, after, rfl, hthreads, hnew⟩
  · rw [hsame]
    exact hs
  · rw [hnew]
    exact phased_start law hprogram hs call
  · rw [hnew]
    exact phased_access law hm hthreads hs

end Sched

end Core
