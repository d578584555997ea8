import SvmCourse.Core.Protocol

/-!
# Histories

What a call can know of the store is what its accesses have found there. The
store may be another one by the time it acts on that, so a statement about an
answer is one about earlier stores. A recorded pool keeps, for each call, the
stores its accesses found and left, and the stores there were while it was
under way.

A call is described by what it does and what it answers after a history. This
is a protocol whose phase is the history. What relates a history to the store
there is now is an order that every access goes along: whatever it preserves
has been kept ever since.

## Main definitions

* `Watched`, `Recorded`: A call with its history, and the store with all calls.
* `record`: A schedule that keeps histories.
* `watching`: Accesses and answers by what has been seen.
* `heeds`: An access meets a condition on the history of its call.
* `HistoryLaw`: What an access does to the store, whoever makes it.
* `Remembered`: What a history says about the store there is now.

## Theorems

* `recalled_after`: What histories say, they say after every schedule.
* `lived_later`: A call that is started later lives later.
-/

namespace Core

namespace Sched

open Prog Machine

variable {σ ε κ : Type}

/-- A call, what is left of it, the stores its accesses have found and left, and
    the stores there have been while it was under way. -/
structure Watched (σ ε κ : Type) where
  call : κ
  rest : Prog σ ε Unit
  seen : List (σ × σ)
  lived : List σ

/-- A store, and the calls on it with what each of them saw. -/
structure Recorded (σ ε κ : Type) where
  store : σ
  calls : List (Watched σ ε κ)

/-- The call is under way while there is this store. -/
def Watched.live (s : σ) (w : Watched σ ε κ) : Watched σ ε κ :=
  if w.rest.unfinished then { w with lived := w.lived ++ [s] } else w

/-- What a move does: a call begins, or makes its next access, which all live calls
    see. -/
def record (program : κ → Prog σ ε Unit) (r : Recorded σ ε κ) :
    Move κ → Unit × Recorded σ ε κ
  | .start call =>
    -- A new call has seen nothing yet, and the others have lived to see one store
    -- more.
    ((), ⟨r.store, r.calls.map (Watched.live r.store) ++ [⟨call, program call, [], []⟩]⟩)
  | .access i =>
    match r.calls[i]? with
    | some ⟨call, .access act next _, seen, lived⟩ =>
      -- The access is done and noted with the stores before and after it.
      ((), ⟨(act r.store).2, (r.calls.map (Watched.live r.store)).set i
        ⟨call, next (act r.store).1, seen ++ [(r.store, (act r.store).2)],
          lived ++ [r.store]⟩⟩)
    -- There is no such call, or it has come to its end.
    | _ => ((), r)

variable {program : κ → Prog σ ε Unit} {r : Recorded σ ε κ}

/-- A move does nothing, or starts a call, or makes the access of one call, and
    the other calls live on. -/
theorem record_cases (program : κ → Prog σ ε Unit) (r : Recorded σ ε κ) (m : Move κ) :
    (record program r m).2 = r ∨
    (∃ call, m = .start call ∧ (record program r m).2 =
      ⟨r.store, r.calls.map (Watched.live r.store) ++ [⟨call, program call, [], []⟩]⟩) ∨
    ∃ before call, ∃ (β : Type) (act : σ → β × σ) (next : β → Prog σ ε Unit),
      ∃ fail seen lived after, m = .access before.length ∧
      r.calls = before ++ ⟨call, .access act next fail, seen, lived⟩ :: after ∧
      (record program r m).2 = ⟨(act r.store).2, before.map (Watched.live r.store) ++
        ⟨call, next (act r.store).1, seen ++ [(r.store, (act r.store).2)],
          lived ++ [r.store]⟩ :: after.map (Watched.live r.store)⟩ := by
  cases m with
  | start call => exact Or.inr (Or.inl ⟨call, rfl, rfl⟩)
  | access i =>
      cases hget : r.calls[i]? with
      | none => exact Or.inl (by simp only [record, hget])
      | some w =>
          rcases w with ⟨call, rest, seen, lived⟩
          cases rest with
          | done a => exact Or.inl (by simp only [record, hget])
          | raise e => exact Or.inl (by simp only [record, hget])
          | access act next fail =>
              obtain ⟨hlt, hw⟩ := List.getElem?_eq_some_iff.mp hget
              -- The calls around the one that is at it.
              have hsplit : r.calls = r.calls.take i ++
                  ⟨call, .access act next fail, seen, lived⟩ :: r.calls.drop (i + 1) := by
                rw [← hw, List.getElem_cons_drop, List.take_append_drop]
              have hlength : (r.calls.take i).length = i := by
                rw [List.length_take]
                omega
              refine Or.inr (Or.inr ⟨r.calls.take i, call, _, act, next, fail, seen, lived,
                r.calls.drop (i + 1), by rw [hlength], hsplit, ?_⟩)
              have hlen : ((r.calls.take i).map (Watched.live r.store)).length = i := by
                rw [List.length_map, hlength]
              -- All calls live on, and then one of them is replaced.
              simp only [record, hget]
              congr 1
              conv_lhs => rw [hsplit]
              rw [List.map_append, List.map_cons, List.set_append_right _ _ (Nat.le_of_eq hlen),
                hlen,
                Nat.sub_self, List.set_cons_zero]

/-! ### Histories and answers -/

/-- What an access that makes this store of that one may be, after a history. -/
def watching (A : List (σ × σ) → σ → σ → Prop) : Protocol σ (List (σ × σ)) where
  sees _ _ := True
  advances seen write s seen' := seen' = seen ++ [(s, write s)] ∧ A seen s (write s)

/-- An access that may be made after the history, whatever it finds. -/
theorem follows_watching {α : Type} {A : List (σ × σ) → σ → σ → Prop}
    {R : List (σ × σ) → Except ε α → Prop} {seen : List (σ × σ)} {e : ε} {act : σ → α × σ}
    (h : ∀ s, A seen s (act s).2 ∧ R (seen ++ [(s, (act s).2)]) (.ok (act s).1)) :
    (perform e act).Follows (watching A) R seen :=
  follows_perform fun s _ => ⟨_, ⟨rfl, (h s).1⟩, (h s).2⟩

/-- What accesses of one kind are, accesses of a wider kind are. -/
theorem follows_wider {α : Type} {A A' : List (σ × σ) → σ → σ → Prop}
    {R : List (σ × σ) → Except ε α → Prop} {p : Prog σ ε α} {seen : List (σ × σ)}
    (hA : ∀ seen s t, A seen s t → A' seen s t) (hp : p.Follows (watching A) R seen) :
    p.Follows (watching A') R seen := by
  -- The history grows by the same accesses in both.
  induction p generalizing seen with
  | done a => exact hp
  | raise e => exact hp
  | access act next fail ihn _ =>
      intro s hs
      obtain ⟨seen', ⟨rfl, hdoes⟩, hnext⟩ := hp s hs
      exact ⟨_, ⟨rfl, hA _ _ _ hdoes⟩, ihn _ hnext⟩

/-- The access that comes next meets a condition on the history of its call and
    what it does to the store it finds. -/
def heeds (C : κ → List (σ × σ) → σ → σ → Prop) : Move κ → Recorded σ ε κ → Prop
  | .start _, _ => True
  | .access i, r => ∀ w ∈ r.calls[i]?, w.rest.unfinished = true →
      C w.call w.seen r.store (w.rest.next r.store).2

instance {C : κ → List (σ × σ) → σ → σ → Prop} [∀ call seen s t, Decidable (C call seen s t)]
    (m : Move κ) (r : Recorded σ ε κ) : Decidable (heeds C m r) :=
  match m with
  | .start _ => isTrue trivial
  | .access i => inferInstanceAs (Decidable (∀ w ∈ r.calls[i]?, _ → _))

/-- A condition that every access meets asks nothing of a schedule. -/
theorem along_heeds {C : κ → List (σ × σ) → σ → σ → Prop} (h : ∀ call seen s t, C call seen s t)
    (moves : List (Move κ)) (r : Recorded σ ε κ) :
    Along (record program) (fun m r _ _ => heeds C m r) moves r := by
  refine along_of_forall (fun m r => ?_) moves r
  cases m with
  | start call => exact trivial
  | access i => exact fun w _ _ => h w.call w.seen _ _

/-- Every access of a history met the condition. -/
def Met (C : κ → List (σ × σ) → σ → σ → Prop) (call : κ) (seen : List (σ × σ)) : Prop :=
  ∀ before p after, seen = before ++ p :: after → C call before p.1 p.2

/-- The stores of a history, one before another, and all before this one, each
    with the invariant. -/
structure Past (Ext : σ → σ → Prop) (I : σ → Prop) (seen : List (σ × σ)) (s : σ) : Prop where
  order : seen.Pairwise fun p q => Ext p.2 q.1
  access : ∀ p ∈ seen, Ext p.1 p.2
  past : ∀ p ∈ seen, Ext p.2 s
  kept : ∀ p ∈ seen, I p.1

/-- Accesses of these kinds, made under these conditions, go along the order and
    keep the invariant. -/
structure HistoryLaw (A C : κ → List (σ × σ) → σ → σ → Prop) (Ext : σ → σ → Prop)
    (I : σ → Prop) : Prop where
  refl : ∀ s, Ext s s
  trans : ∀ s t u, Ext s t → Ext t u → Ext s u
  step : ∀ call seen s t, I s → Past Ext I seen s → Met C call seen → A call seen s t →
    C call seen s t → Ext s t ∧ I t

variable {A C : κ → List (σ × σ) → σ → σ → Prop} {R : κ → List (σ × σ) → Except ε Unit → Prop}
  {Ext : σ → σ → Prop} {I : σ → Prop}

/-- What the history of a call says about the rest of it, and about the store
    there is now. -/
structure Remembered (A C : κ → List (σ × σ) → σ → σ → Prop)
    (R : κ → List (σ × σ) → Except ε Unit → Prop) (Ext : σ → σ → Prop) (I : σ → Prop) (s : σ)
    (w : Watched σ ε κ) : Prop where
  follows : w.rest.Follows (watching (A w.call)) (R w.call) w.seen
  met : Met C w.call w.seen
  past : Past Ext I w.seen s
  found : ∀ p ∈ w.seen, p.1 ∈ w.lived
  lived : ∀ u ∈ w.lived, Ext u s

/-- The invariant of the store holds, and every call remembers its history. -/
structure Recalled (A C : κ → List (σ × σ) → σ → σ → Prop)
    (R : κ → List (σ × σ) → Except ε Unit → Prop) (Ext : σ → σ → Prop) (I : σ → Prop)
    (r : Recorded σ ε κ) : Prop where
  store : I r.store
  calls : ∀ w ∈ r.calls, Remembered A C R Ext I r.store w

theorem remembered_begin (hprogram : ∀ call, (program call).Follows (watching (A call)) (R call) [])
    (call : κ) (s : σ) : Remembered A C R Ext I s ⟨call, program call, [], []⟩ where
  follows := hprogram call
  met _ _ _ h := absurd h.symm (by simp)
  past := ⟨List.Pairwise.nil, (fun _ h => nomatch h), (fun _ h => nomatch h),
    (fun _ h => nomatch h)⟩
  found _ h := nomatch h
  lived _ h := nomatch h

/-- The store changes behind the back of the call. -/
theorem remembered_live (law : HistoryLaw A C Ext I) {s t : σ} (hext : Ext s t)
    {w : Watched σ ε κ} (h : Remembered A C R Ext I s w) :
    Remembered A C R Ext I t (w.live s) := by
  -- What was before the old store is before the new one.
  have hpast : Past Ext I w.seen t :=
    ⟨h.past.order, h.past.access, fun p hp => law.trans _ _ _ (h.past.past p hp) hext,
      h.past.kept⟩
  have hlived : ∀ u ∈ w.lived, Ext u t := fun u hu => law.trans _ _ _ (h.lived u hu) hext
  unfold Watched.live
  split
  · refine ⟨h.follows, h.met, hpast, fun p hp => List.mem_append_left _ (h.found p hp), ?_⟩
    exact List.forall_mem_append.mpr ⟨hlived, fun u hu => List.mem_singleton.mp hu ▸ hext⟩
  · exact ⟨h.follows, h.met, hpast, h.found, hlived⟩

theorem met_append {call : κ} {seen : List (σ × σ)} {p : σ × σ} (h : Met C call seen)
    (hlast : C call seen p.1 p.2) : Met C call (seen ++ [p]) := by
  intro before q after hsplit
  -- The access in question is the last one, or one before it.
  rcases List.append_eq_append_iff.mp hsplit with ⟨xs, rfl, hxs⟩ | ⟨xs, rfl, hxs⟩
  · rcases List.cons_eq_append_iff.mp hxs with ⟨rfl, hq⟩ | ⟨ys, rfl, hys⟩
    · rw [List.append_nil]
      obtain ⟨rfl, -⟩ := List.cons.inj hq
      exact hlast
    · exact absurd hys (by simp)
  · cases xs with
    | nil =>
        rw [List.append_nil] at hlast
        obtain ⟨rfl, -⟩ := List.cons.inj hxs
        exact hlast
    | cons x xs =>
        obtain ⟨rfl, -⟩ := List.cons.inj hxs
        exact h before q xs rfl

theorem past_append (law : HistoryLaw A C Ext I) {seen : List (σ × σ)} {s t : σ}
    (h : Past Ext I seen s) (hs : I s) (hext : Ext s t) : Past Ext I (seen ++ [(s, t)]) t where
  order := by
    -- All earlier accesses were before the store that this one finds.
    refine List.pairwise_append.mpr ⟨h.order, List.pairwise_singleton .., fun p hp q hq => ?_⟩
    rw [List.mem_singleton.mp hq]
    exact h.past p hp
  access := List.forall_mem_append.mpr
    ⟨h.access, fun p hp => List.mem_singleton.mp hp ▸ hext⟩
  past := List.forall_mem_append.mpr
    ⟨fun p hp => law.trans _ _ _ (h.past p hp) hext,
      fun p hp => List.mem_singleton.mp hp ▸ law.refl t⟩
  kept := List.forall_mem_append.mpr ⟨h.kept, fun p hp => List.mem_singleton.mp hp ▸ hs⟩

/-- The access itself. -/
theorem remembered_access (law : HistoryLaw A C Ext I) {s : σ} {call : κ} {β : Type}
    {act : σ → β × σ} {next : β → Prog σ ε Unit} {fail : Prog σ ε Unit} {seen : List (σ × σ)}
    {lived : List σ} (hs : I s)
    (h : Remembered A C R Ext I s ⟨call, .access act next fail, seen, lived⟩)
    (hC : C call seen s (act s).2) :
    Ext s (act s).2 ∧ I (act s).2 ∧ Remembered A C R Ext I (act s).2
      ⟨call, next (act s).1, seen ++ [(s, (act s).2)], lived ++ [s]⟩ := by
  obtain ⟨seen', ⟨rfl, hA⟩, hnext⟩ := h.follows s trivial
  -- What the law says needs all that is remembered so far.
  obtain ⟨hext, hI⟩ := law.step call seen s (act s).2 hs h.past h.met hA hC
  refine ⟨hext, hI, hnext, met_append h.met hC, past_append law h.past hs hext, ?_, ?_⟩
  · refine List.forall_mem_append.mpr ⟨fun p hp => List.mem_append_left _ (h.found p hp),
      fun p hp => ?_⟩
    rw [List.mem_singleton.mp hp]
    exact List.mem_append_right _ (List.mem_singleton_self s)
  · refine List.forall_mem_append.mpr ⟨fun u hu => law.trans _ _ _ (h.lived u hu) hext,
      fun u hu => ?_⟩
    rw [List.mem_singleton.mp hu]
    exact hext

theorem recalled_record (law : HistoryLaw A C Ext I)
    (hprogram : ∀ call, (program call).Follows (watching (A call)) (R call) []) {m : Move κ}
    (hC : heeds C m r) (h : Recalled A C R Ext I r) :
    Recalled A C R Ext I (record program r m).2 ∧ Ext r.store (record program r m).2.store := by
  rcases record_cases program r m with hsame | ⟨call, rfl, hnew⟩ |
    ⟨before, call, β, act, next, fail, seen, lived, after, rfl, hcalls, hnew⟩
  · rw [hsame]
    exact ⟨h, law.refl _⟩
  · rw [hnew]
    refine ⟨⟨h.store, List.forall_mem_append.mpr ⟨fun w hw => ?_, fun w hw => ?_⟩⟩, law.refl _⟩
    · obtain ⟨v, hv, rfl⟩ := List.mem_map.mp hw
      exact remembered_live law (law.refl _) (h.calls v hv)
    · rw [List.mem_singleton.mp hw]
      exact remembered_begin hprogram call r.store
  · have hcall : ∀ w ∈ before ++ ⟨call, .access act next fail, seen, lived⟩ :: after,
        Remembered A C R Ext I r.store w := hcalls ▸ h.calls
    rw [List.forall_mem_append, List.forall_mem_cons] at hcall
    obtain ⟨hbefore, hself, hafter⟩ := hcall
    have hget : r.calls[before.length]? = some ⟨call, .access act next fail, seen, lived⟩ := by
      rw [hcalls]
      simp
    obtain ⟨hext, hI, hnext⟩ := remembered_access law h.store hself (hC _ hget rfl)
    -- To the other calls the access is a change behind their backs.
    have hothers : ∀ others : List (Watched σ ε κ),
        (∀ w ∈ others, Remembered A C R Ext I r.store w) →
        ∀ w ∈ others.map (Watched.live r.store), Remembered A C R Ext I (act r.store).2 w := by
      intro others hall w hw
      obtain ⟨v, hv, rfl⟩ := List.mem_map.mp hw
      exact remembered_live law hext (hall v hv)
    rw [hnew]
    refine ⟨⟨hI, List.forall_mem_append.mpr ⟨hothers before hbefore, ?_⟩⟩, hext⟩
    exact List.forall_mem_cons.mpr ⟨hnext, hothers after hafter⟩

theorem recalled_start {s : σ} (h : I s) :
    Recalled A C R Ext I (⟨s, []⟩ : Recorded σ ε κ) :=
  ⟨h, fun _ hw => nomatch hw⟩

/-- What the histories of calls say, they say after every schedule whose accesses
    heed the condition. -/
theorem recalled_after (law : HistoryLaw A C Ext I)
    (hprogram : ∀ call, (program call).Follows (watching (A call)) (R call) [])
    {moves : List (Move κ)} (h : Recalled A C R Ext I r)
    (hC : Along (record program) (fun m r _ _ => heeds C m r) moves r) :
    Recalled A C R Ext I (after (record program) moves r) :=
  after_invariant (I := Recalled A C R Ext I)
    (fun _ _ hm hr => (recalled_record law hprogram hm hr).1) h hC

/-- What the histories give is given along the schedule. -/
theorem along_recalled (law : HistoryLaw A C Ext I)
    (hprogram : ∀ call, (program call).Follows (watching (A call)) (R call) [])
    {Q : Recorded σ ε κ → Prop} (hQ : ∀ r, Recalled A C R Ext I r → Q r)
    {moves : List (Move κ)} (h : Recalled A C R Ext I r)
    (hC : Along (record program) (fun m r _ _ => heeds C m r) moves r) :
    Along (record program) (fun _ _ _ r => Q r) moves r := by
  refine along_invariant (I := Recalled A C R Ext I) (fun m r hm hr => ?_) h hC
  have hnext := (recalled_record law hprogram hm hr).1
  exact ⟨hQ _ hnext, hnext⟩

/-- What a call has lived through after a move, it had lived through before, but
    for the store the move found. -/
theorem lived_record (program : κ → Prog σ ε Unit) (r : Recorded σ ε κ) (m : Move κ) {n : Nat}
    (hn : n ≤ r.calls.length) {P : σ → Prop} (hstore : P r.store)
    (h : ∀ w ∈ r.calls.drop n, ∀ u ∈ w.lived, P u) :
    n ≤ (record program r m).2.calls.length ∧
      ∀ w ∈ (record program r m).2.calls.drop n, ∀ u ∈ w.lived, P u := by
  -- To live on is to add the store, which has the property.
  have hlive : ∀ w : Watched σ ε κ, (∀ u ∈ w.lived, P u) → ∀ u ∈ (w.live r.store).lived, P u := by
    intro w hw
    unfold Watched.live
    split
    · exact List.forall_mem_append.mpr ⟨hw, fun u hu => List.mem_singleton.mp hu ▸ hstore⟩
    · exact hw
  have hmap : ∀ w ∈ (r.calls.map (Watched.live r.store)).drop n, ∀ u ∈ w.lived, P u := by
    rw [← List.map_drop]
    intro w hw
    obtain ⟨v, hv, rfl⟩ := List.mem_map.mp hw
    exact hlive v (h v hv)
  rcases record_cases program r m with hsame | ⟨call, rfl, hnew⟩ |
    ⟨before, call, β, act, next, fail, seen, lived, after, rfl, hcalls, hnew⟩
  · rw [hsame]
    exact ⟨hn, h⟩
  · rw [hnew]
    constructor
    · simp only [List.length_append, List.length_map]
      omega
    · rw [List.drop_append_of_le_length (by rw [List.length_map]; exact hn)]
      refine List.forall_mem_append.mpr ⟨hmap, fun w hw => ?_⟩
      rw [List.mem_singleton.mp hw]
      exact fun _ hu => nomatch hu
  · rw [hnew]
    have hlen : before.length + (after.length + 1) = r.calls.length := by
      rw [hcalls, List.length_append, List.length_cons]
    constructor
    · simp only [List.length_append, List.length_map, List.length_cons]
      omega
    · rw [hcalls, List.map_append, List.map_cons] at hmap
      rw [hcalls] at h
      -- The call with the access is one of the later ones, or not.
      by_cases hle : n ≤ before.length
      · rw [List.drop_append_of_le_length (by rw [List.length_map]; exact hle)] at hmap ⊢
        rw [List.drop_append_of_le_length hle] at h
        rw [List.forall_mem_append, List.forall_mem_cons] at hmap h ⊢
        refine ⟨hmap.1, ?_, hmap.2.2⟩
        exact List.forall_mem_append.mpr
          ⟨h.2.1, fun u hu => List.mem_singleton.mp hu ▸ hstore⟩
      · obtain ⟨k, rfl⟩ : ∃ k, n = before.length + 1 + k := ⟨n - (before.length + 1), by omega⟩
        have hdrop : ∀ w : Watched σ ε κ, (before.map (Watched.live r.store) ++
            w :: after.map (Watched.live r.store)).drop (before.length + 1 + k) =
              (after.map (Watched.live r.store)).drop k := by
          intro w
          rw [List.drop_append, List.length_map]
          have hnone : (before.map (Watched.live r.store)).drop (before.length + 1 + k) = [] := by
            rw [List.drop_eq_nil_iff, List.length_map]
            omega
          have hsub : before.length + 1 + k - before.length = k + 1 := by omega
          rw [hnone, hsub, List.nil_append, List.drop_succ_cons]
        rw [hdrop] at hmap ⊢
        exact hmap

/-- A call that is started later lives in stores that come later. -/
theorem lived_later (law : HistoryLaw A C Ext I)
    (hprogram : ∀ call, (program call).Follows (watching (A call)) (R call) [])
    {moves : List (Move κ)} (h : Recalled A C R Ext I r)
    (hC : Along (record program) (fun m r _ _ => heeds C m r) moves r) :
    ∀ w ∈ (after (record program) moves r).calls.drop r.calls.length, ∀ u ∈ w.lived,
      Ext r.store u := by
  -- The invariant keeps the histories, the order, the count and the claim.
  have hafter := after_invariant (I := fun q => Recalled A C R Ext I q ∧ Ext r.store q.store ∧
    r.calls.length ≤ q.calls.length ∧
    ∀ w ∈ q.calls.drop r.calls.length, ∀ u ∈ w.lived, Ext r.store u)
    (fun m q hm hq => ?_) ⟨h, law.refl _, Nat.le_refl _, ?_⟩ hC
  · exact hafter.2.2.2
  · obtain ⟨hrecalled, hext, hlen, hlived⟩ := hq
    obtain ⟨hnext, hstep⟩ := recalled_record law hprogram hm hrecalled
    exact ⟨hnext, law.trans _ _ _ hext hstep, lived_record program q m hlen hext hlived⟩
  · rw [List.drop_length]
    exact fun _ hw => nomatch hw

end Sched

end Core
