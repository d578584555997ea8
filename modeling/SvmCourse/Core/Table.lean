import Mathlib.Algebra.BigOperators.Group.List.Basic
import Mathlib.Data.List.Find
import Mathlib.Data.List.Nodup
import Mathlib.Tactic.Abel
import Mathlib.Tactic.Common

/-!
# Keyed Tables

A table of rows with a key that no two rows share, as a repository over a
unique column sees it. The uniqueness is a field of the structure, so a table
with a duplicate key cannot be built and no later proof carries the fact
around.

`save` overwrites the row with the same key where it stands and appends a row
whose key is new, so the order of the rows is the order in which their keys
first appeared. `update` rewrites the rows that match a condition. Neither
removes a row.

The sums are what the accounting arguments are about: saving a row changes a
sum over the table by the difference the row itself makes.

## Main definitions

* `Table`: Rows with pairwise different keys.
* `findOne`, `find`: Lookup by key and selection by condition.
* `save`, `update`: Writing one row and rewriting matching rows.
* `sum`: The sum of an integer attribute over the rows.

## Theorems

* `sum_map_set`: A sum over a list after a row was replaced.
* `findOne_eq_some_iff`: A lookup finds exactly the row of that key.
* `findOne_save`: A lookup after a save.
* `mem_save`: The rows after a save.
* `save_save`: The second save of a key is the one that counts.
* `sum_save`, `sum_save_new`: The sum after a save.
* `map_save`, `find?_save`: What a save does not change.
* `findOne_update`: A lookup after an update.
-/

namespace Core

/-- Replacing a row of a list changes a sum by the difference it makes. -/
theorem sum_map_set {V A : Type*} [AddCommGroup A] {l : List V} {i : Nat} {old : V}
    (h : l[i]? = some old) (new : V) (f : V → A) :
    ((l.set i new).map f).sum = (l.map f).sum - f old + f new := by
  induction l generalizing i with
  | nil => exact nomatch h
  | cons v l ih =>
      -- The row is the first one, or further down.
      cases i with
      | zero =>
          cases h
          simp only [List.set_cons_zero, List.map_cons, List.sum_cons]
          abel
      | succ i =>
          simp only [List.set_cons_succ, List.map_cons, List.sum_cons, ih h]
          abel

/-- Rows whose keys are pairwise different. -/
structure Table {K V : Type} (key : V → K) where
  rows : List V
  unique : (rows.map key).Nodup

namespace Table

variable {K V : Type} {key : V → K}

@[ext] theorem ext_rows {t u : Table key} (h : t.rows = u.rows) : t = u := by
  cases t
  cases u
  simp only at h
  subst h
  rfl

/-- A table without rows. -/
def empty : Table key := ⟨[], List.nodup_nil⟩

/-- The rows of that kind. -/
def find (t : Table key) (p : V → Bool) : List V := t.rows.filter p

/-- The sum over all rows. -/
def sum (t : Table key) (f : V → Int) : Int := (t.rows.map f).sum

theorem eq_of_key {t : Table key} {v w : V} (hv : v ∈ t.rows) (hw : w ∈ t.rows)
    (h : key v = key w) : v = w :=
  List.inj_on_of_nodup_map t.unique hv hw h

/-- Rewrite the rows that match, the key staying what it was. -/
def update (t : Table key) (p : V → Bool) (f : V → V) (hf : ∀ v, key (f v) = key v) :
    Table key where
  -- The keys stay as they are, so they stay different.
  rows := t.rows.map fun v => if p v then f v else v
  unique := by
    have hkeys : ((t.rows.map fun v => if p v then f v else v).map key) = t.rows.map key := by
      rw [List.map_map]
      refine List.map_congr_left fun v _ => ?_
      simp only [Function.comp_apply]
      split
      · exact hf v
      · rfl
    rw [hkeys]
    exact t.unique

theorem mem_update {t : Table key} {p : V → Bool} {f : V → V} {hf : ∀ v, key (f v) = key v}
    {w : V} : w ∈ (t.update p f hf).rows ↔ ∃ v ∈ t.rows, (if p v then f v else v) = w :=
  List.mem_map

/-- An update is not seen by an attribute it leaves alone. -/
theorem map_update {A : Type} {t : Table key} {p : V → Bool} {f : V → V}
    {hf : ∀ v, key (f v) = key v} {g : V → A} (h : ∀ v ∈ t.rows, p v = true → g (f v) = g v) :
    (t.update p f hf).rows.map g = t.rows.map g := by
  simp only [update, List.map_map]
  refine List.map_congr_left fun v hv => ?_
  simp only [Function.comp_apply]
  split
  · next hp => exact h v hv hp
  · rfl

variable [DecidableEq K]

/-- The row with that key. -/
def findOne (t : Table key) (k : K) : Option V := t.rows.find? fun v => key v = k

theorem findOne_eq_some_iff {t : Table key} {k : K} {v : V} :
    t.findOne k = some v ↔ v ∈ t.rows ∧ key v = k := by
  constructor
  · intro h
    exact ⟨List.mem_of_find?_eq_some h, by simpa only [decide_eq_true_eq] using List.find?_some h⟩
  · rintro ⟨hv, hk⟩
    cases hf : t.findOne k with
    | none =>
        have hnone := List.find?_eq_none.mp hf v hv
        simp only [hk, decide_true, not_true_eq_false] at hnone
    | some w =>
        have hw := List.mem_of_find?_eq_some hf
        have hwk : key w = k := by simpa only [decide_eq_true_eq] using List.find?_some hf
        -- Another row that is found has the same key, so it is the same row.
        rw [eq_of_key hw hv (hwk.trans hk.symm)]

theorem findOne_eq_none_iff {t : Table key} {k : K} :
    t.findOne k = none ↔ ∀ v ∈ t.rows, key v ≠ k := by
  simp only [findOne, List.find?_eq_none, decide_eq_true_eq, ne_eq]

theorem key_of_findOne {t : Table key} {k : K} {v : V} (h : t.findOne k = some v) : key v = k :=
  (findOne_eq_some_iff.mp h).2

theorem mem_of_findOne {t : Table key} {k : K} {v : V} (h : t.findOne k = some v) :
    v ∈ t.rows :=
  (findOne_eq_some_iff.mp h).1

theorem findOne_of_mem {t : Table key} {v : V} (h : v ∈ t.rows) : t.findOne (key v) = some v :=
  findOne_eq_some_iff.mpr ⟨h, rfl⟩

/-- Overwrite the row with the same key, or append the row if its key is new. -/
def save (t : Table key) (r : V) : Table key :=
  if h : key r ∈ t.rows.map key then
    -- A row with this key is there, and is written over in its place.
    t.update (fun v => key v = key r) (fun v => if key v = key r then r else v) fun v => by
      split
      · next hv => exact hv.symm
      · rfl
  else
    -- There is none, and the row is appended.
    ⟨t.rows ++ [r], by
      rw [List.map_append, List.map_singleton, List.nodup_append]
      refine ⟨t.unique, List.nodup_singleton _, fun k hk k' hk' => ?_⟩
      rw [List.mem_singleton] at hk'
      rintro rfl
      exact h (hk' ▸ hk)⟩

theorem key_mem_iff {t : Table key} {k : K} :
    k ∈ t.rows.map key ↔ ∃ v, t.findOne k = some v := by
  constructor
  · intro h
    rcases List.mem_map.mp h with ⟨v, hv, rfl⟩
    exact ⟨v, findOne_of_mem hv⟩
  · rintro ⟨v, hv⟩
    exact List.mem_map.mpr ⟨v, findOne_eq_some_iff.mp hv⟩

theorem save_rows_of_some {t : Table key} {r old : V} (h : t.findOne (key r) = some old) :
    (t.save r).rows = t.rows.map fun v => if key v = key r then r else v := by
  rw [save, dif_pos (key_mem_iff.mpr ⟨old, h⟩)]
  simp only [update]
  refine List.map_congr_left fun v _ => ?_
  by_cases hv : key v = key r <;> simp only [hv, decide_true, decide_false, if_true,
    Bool.false_eq_true, if_false]

theorem save_rows_of_none {t : Table key} {r : V} (h : t.findOne (key r) = none) :
    (t.save r).rows = t.rows ++ [r] := by
  rw [save, dif_neg]
  rw [key_mem_iff]
  rintro ⟨v, hv⟩
  rw [h] at hv
  exact absurd hv (by simp only [reduceCtorEq, not_false_eq_true])

theorem mem_save {t : Table key} {r v : V} :
    v ∈ (t.save r).rows ↔ v = r ∨ v ∈ t.rows ∧ key v ≠ key r := by
  -- A new key is appended, and an old one keeps its position.
  cases h : t.findOne (key r) with
  | none =>
      rw [save_rows_of_none h, List.mem_append, List.mem_singleton]
      have hne := findOne_eq_none_iff.mp h
      constructor
      · rintro (hv | rfl)
        · exact Or.inr ⟨hv, hne v hv⟩
        · exact Or.inl rfl
      · rintro (rfl | hv)
        · exact Or.inr rfl
        · exact Or.inl hv.1
  | some old =>
      rw [save_rows_of_some h, List.mem_map]
      constructor
      · rintro ⟨w, hw, rfl⟩
        by_cases hk : key w = key r
        · rw [if_pos hk]
          exact Or.inl rfl
        · rw [if_neg hk]
          exact Or.inr ⟨hw, hk⟩
      · rintro (rfl | ⟨hv, hk⟩)
        · exact ⟨old, mem_of_findOne h, if_pos (key_of_findOne h)⟩
        · exact ⟨v, hv, if_neg hk⟩

@[simp] theorem findOne_save_self (t : Table key) (r : V) : (t.save r).findOne (key r) = some r :=
  findOne_eq_some_iff.mpr ⟨mem_save.mpr (Or.inl rfl), rfl⟩

theorem findOne_save_of_ne {t : Table key} {r : V} {k : K} (h : k ≠ key r) :
    (t.save r).findOne k = t.findOne k := by
  cases hk : t.findOne k with
  | none =>
      rw [findOne_eq_none_iff] at hk ⊢
      intro v hv
      rcases mem_save.mp hv with rfl | hv'
      · exact fun he => h he.symm
      · exact hk v hv'.1
  | some v =>
      rw [findOne_eq_some_iff] at hk ⊢
      exact ⟨mem_save.mpr (Or.inr ⟨hk.1, fun he => h (hk.2.symm.trans he)⟩), hk.2⟩

theorem findOne_save (t : Table key) (r : V) (k : K) :
    (t.save r).findOne k = if k = key r then some r else t.findOne k := by
  by_cases h : k = key r
  · rw [if_pos h, h, findOne_save_self]
  · rw [if_neg h, findOne_save_of_ne h]

/-- A key that is there stays there. -/
theorem exists_findOne_save {t : Table key} {k : K} {v : V} (h : t.findOne k = some v) (r : V) :
    ∃ w, (t.save r).findOne k = some w := by
  rw [findOne_save]
  split
  · exact ⟨r, rfl⟩
  · exact ⟨v, h⟩

/-- A save is not seen by a selection that takes no row of its key. -/
theorem find_save_of_not {t : Table key} {r : V} {p : V → Bool}
    (h : ∀ v, key v = key r → p v = false) : (t.save r).find p = t.find p := by
  unfold find
  cases hk : t.findOne (key r) with
  | none =>
      rw [save_rows_of_none hk, List.filter_append, List.filter_cons_of_neg, List.filter_nil,
        List.append_nil]
      rw [h r rfl]
      exact Bool.false_ne_true
  | some old =>
      rw [save_rows_of_some hk]
      induction t.rows with
      | nil => rfl
      | cons v l ih =>
          rw [List.map_cons]
          -- A row of the key is not selected, neither the old one nor the new one.
          by_cases hv : key v = key r
          · rw [if_pos hv, List.filter_cons_of_neg (by rw [h r rfl]; exact Bool.false_ne_true),
              List.filter_cons_of_neg (by rw [h v hv]; exact Bool.false_ne_true), ih]
          · rw [if_neg hv, List.filter_cons, List.filter_cons, ih]

/-- A row with a new key is the last one a selection takes. -/
theorem find_save_new {t : Table key} {r : V} {p : V → Bool} (h : t.findOne (key r) = none)
    (hr : p r = true) : (t.save r).find p = t.find p ++ [r] := by
  unfold find
  rw [save_rows_of_none h, List.filter_append, List.filter_cons_of_pos hr, List.filter_nil]

/-- Of two saves under one key the second is the one that counts. -/
theorem save_save {t : Table key} {a b : V} (h : key a = key b) :
    (t.save a).save b = t.save b := by
  ext1
  have hab : (t.save a).findOne (key b) = some a := h ▸ findOne_save_self t a
  rw [save_rows_of_some hab]
  cases ht : t.findOne (key b) with
  | none =>
      rw [save_rows_of_none ht, save_rows_of_none (h ▸ ht), List.map_append, List.map_singleton,
        if_pos h]
      congr 1
      -- The key is new for both, so only the appended row changes.
      have hid : t.rows.map (fun v => if key v = key b then b else v) = t.rows.map id :=
        List.map_congr_left fun v hv => if_neg (findOne_eq_none_iff.mp ht v hv)
      rw [hid, List.map_id]
  | some old =>
      rw [save_rows_of_some ht, save_rows_of_some (h ▸ ht), List.map_map]
      refine List.map_congr_left fun v _ => ?_
      simp only [Function.comp_apply, h]
      by_cases hv : key v = key b
      · rw [if_pos hv, if_pos h, if_pos hv]
      · rw [if_neg hv, if_neg hv]

/-- Saving the row that is there changes nothing. -/
theorem save_of_findOne {t : Table key} {r : V} (h : t.findOne (key r) = some r) :
    t.save r = t := by
  ext1
  rw [save_rows_of_some h]
  have hid : t.rows.map (fun v => if key v = key r then r else v) = t.rows.map id := by
    refine List.map_congr_left fun v hv => ?_
    by_cases hk : key v = key r
    · rw [if_pos hk, id_eq]
      exact (eq_of_key hv (mem_of_findOne h) hk).symm
    · rw [if_neg hk, id_eq]
  rw [hid, List.map_id]

/-- What a save does not change in a row, it does not change in the table. -/
theorem map_save {A : Type} {t : Table key} {r old : V} {f : V → A}
    (h : t.findOne (key r) = some old) (hf : f r = f old) :
    (t.save r).rows.map f = t.rows.map f := by
  rw [save_rows_of_some h, List.map_map]
  refine List.map_congr_left fun v hv => ?_
  by_cases hk : key v = key r
  · -- The row of the key is the old one.
    have hold : v = old := eq_of_key hv (mem_of_findOne h) (hk.trans (key_of_findOne h).symm)
    rw [Function.comp_apply, if_pos hk, hf, hold]
  · rw [Function.comp_apply, if_neg hk]

/-- A search that does not see the change finds the row where it was. -/
theorem find?_save {t : Table key} {r old : V} {p : V → Bool} (h : t.findOne (key r) = some old)
    (hp : p r = p old) :
    (t.save r).rows.find? p = (t.rows.find? p).map fun v => if key v = key r then r else v := by
  rw [save_rows_of_some h, List.find?_map]
  congr 1
  refine List.find?_congr fun v hv => ?_
  by_cases hk : key v = key r
  · have hold : v = old := eq_of_key hv (mem_of_findOne h) (hk.trans (key_of_findOne h).symm)
    rw [Function.comp_apply, if_pos hk, hp, hold]
  · rw [Function.comp_apply, if_neg hk]

theorem sum_map_replace {l : List V} {f : V → Int} {r old : V} (hu : (l.map key).Nodup)
    (hold : old ∈ l) (hk : key old = key r) :
    ((l.map fun v => if key v = key r then r else v).map f).sum
      = (l.map f).sum - f old + f r := by
  induction l with
  | nil => exact absurd hold List.not_mem_nil
  | cons v l ih =>
      rw [List.map_cons, List.nodup_cons] at hu
      simp only [List.map_cons, List.sum_cons]
      rcases List.mem_cons.mp hold with rfl | hmem
      · -- The row stands at the head, so no later row has its key.
        have hid : l.map (fun v => if key v = key r then r else v) = l.map id := by
          refine List.map_congr_left fun w hw => if_neg fun he => hu.1 ?_
          rw [hk, ← he]
          exact List.mem_map_of_mem hw
        rw [hid, List.map_id, if_pos hk]
        omega
      · have hne : key v ≠ key r := fun he => hu.1 (he ▸ hk ▸ List.mem_map_of_mem hmem)
        rw [if_neg hne, ih hu.2 hmem]
        omega

theorem sum_save {t : Table key} {f : V → Int} {r old : V} (h : t.findOne (key r) = some old) :
    (t.save r).sum f = t.sum f - f old + f r := by
  rw [sum, save_rows_of_some h]
  exact sum_map_replace t.unique (mem_of_findOne h) (key_of_findOne h)

theorem sum_save_new {t : Table key} {f : V → Int} {r : V} (h : t.findOne (key r) = none) :
    (t.save r).sum f = t.sum f + f r := by
  rw [sum, save_rows_of_none h, List.map_append, List.sum_append, List.map_singleton,
    List.sum_singleton, sum]

theorem findOne_update {t : Table key} {p : V → Bool} {f : V → V} {hf : ∀ v, key (f v) = key v}
    (k : K) : (t.update p f hf).findOne k = (t.findOne k).map fun v => if p v then f v else v := by
  -- Keys stay, so a lookup meets the same row.
  have hkey : ∀ v, key (if p v then f v else v) = key v := by
    intro v
    split
    · exact hf v
    · rfl
  cases hk : t.findOne k with
  | none =>
      rw [Option.map_none, findOne_eq_none_iff]
      intro w hw
      rcases mem_update.mp hw with ⟨v, hv, rfl⟩
      rw [hkey]
      exact findOne_eq_none_iff.mp hk v hv
  | some v =>
      rw [Option.map_some, findOne_eq_some_iff]
      exact ⟨mem_update.mpr ⟨v, mem_of_findOne hk, rfl⟩, (hkey v).trans (key_of_findOne hk)⟩

end Table

end Core
