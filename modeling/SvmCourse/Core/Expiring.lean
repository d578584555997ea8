import Mathlib.Logic.Function.Basic
import Mathlib.Tactic.Common

/-!
# Entries that Expire

A map with the time on it. An entry is stored for good or for some seconds, and is
not there any more when these have passed. Time is counted in milliseconds.

Two maps with keys of different kinds can be compared entry by entry. Where a key
of one and a key of the other are always written together, and the time passes in
both, they have the same entry.

## Main definitions

* `Expiring`: A map with the time on it.
* `Expiring.put`: Storing for good, or for some seconds.
* `Mirrors`: A key of one map has the entry of a key of another.

## Theorems

* `entry_del_keys`: What deleting the keys of a kind leaves.
* `mirrors_put`, `mirrors_put_of_ne`: Writing both keys, or neither.
-/

namespace Core

/-- A value and the instant at which it is gone, if there is one. -/
structure Expiring.Entry (V : Type) where
  value : V
  expiresAt : Option Nat := none

/-- A map with a clock. -/
structure Expiring (K V : Type) where
  now : Nat := 0
  entries : K → Option (Expiring.Entry V) := fun _ => none

namespace Expiring

variable {K L V : Type}

/-- What is there under a key and has not expired. -/
def entry (map : Expiring K V) (key : K) : Option (Entry V) :=
  (map.entries key).filter fun entry => entry.expiresAt.all (map.now < ·)

/-- Store a value that stays. -/
def set [DecidableEq K] (map : Expiring K V) (key : K) (value : V) : Expiring K V :=
  { map with entries := Function.update map.entries key (some ⟨value, none⟩) }

/-- A time to live that is not positive is refused. -/
def setex [DecidableEq K] (map : Expiring K V) (key : K) (seconds : Int) (value : V) :
    Expiring K V :=
  if 0 < seconds then
    { map with
      entries := Function.update map.entries key
        (some ⟨value, some (map.now + seconds.toNat * 1000)⟩) }
  else map

/-- Zero seconds are no limit. -/
def put [DecidableEq K] (map : Expiring K V) (key : K) (ttl : Int) (value : V) : Expiring K V :=
  if ttl ≠ 0 then map.setex key ttl value else map.set key value

/-- The keys that are there and of a kind. -/
def keys (map : Expiring K V) (kind : K → Bool) (key : K) : Bool :=
  (map.entry key).isSome && kind key

/-- Drop what is stored at these keys. -/
def del (map : Expiring K V) (keys : K → Bool) : Expiring K V :=
  { map with entries := fun key => if keys key then none else map.entries key }

/-- Drop everything. -/
def flushdb (map : Expiring K V) : Expiring K V :=
  { map with entries := fun _ => none }

/-- Let time pass. -/
def pass (map : Expiring K V) (milliseconds : Nat) : Expiring K V :=
  { map with now := map.now + milliseconds }

theorem entry_del (map : Expiring K V) (keys : K → Bool) (key : K) :
    (map.del keys).entry key = if keys key = true then none else map.entry key := by
  have hentries : (map.del keys).entries key = if keys key = true then none else map.entries key :=
    rfl
  rw [entry, hentries]
  split
  · rfl
  · rfl

/-- Deleting the keys of a kind takes their entries away and leaves the others. -/
theorem entry_del_keys (map : Expiring K V) (kind : K → Bool) (key : K) :
    (map.del (map.keys kind)).entry key = if kind key = true then none else map.entry key := by
  rw [entry_del, keys]
  cases hentry : map.entry key with
  | none => simp only [Option.isSome_none, Bool.false_and, ite_self]
  | some entry => rw [Option.isSome_some, Bool.true_and]

/-! ### Maps side by side -/

/-- A key of one map has the entry of a key of another. -/
structure Mirrors (map : Expiring K V) (key : K) (other : Expiring L V) (place : L) : Prop where
  now : map.now = other.now
  entries : map.entries key = other.entries place

theorem Mirrors.entry_eq {map : Expiring K V} {key : K} {other : Expiring L V} {place : L}
    (h : Mirrors map key other place) : map.entry key = other.entry place := by
  rw [entry, entry, h.now, h.entries]

variable {map : Expiring K V} {key : K} {other : Expiring L V} {place : L}

theorem mirrors_pass (h : Mirrors map key other place) (milliseconds : Nat) :
    Mirrors (map.pass milliseconds) key (other.pass milliseconds) place where
  now := congrArg (· + milliseconds) h.now
  entries := h.entries

variable [DecidableEq K] [DecidableEq L]

theorem put_now (map : Expiring K V) (key : K) (ttl : Int) (value : V) :
    (map.put key ttl value).now = map.now := by
  unfold put setex set
  split
  · split <;> rfl
  · rfl

theorem put_entries_of_ne {key' : K} (hne : key ≠ key') (ttl : Int) (value : V) :
    (map.put key' ttl value).entries key = map.entries key := by
  unfold put setex set
  split
  · split
    · exact Function.update_of_ne hne ..
    · rfl
  · exact Function.update_of_ne hne ..

theorem mirrors_put (h : Mirrors map key other place) (ttl : Int) (value : V) :
    Mirrors (map.put key ttl value) key (other.put place ttl value) place where
  now := by rw [put_now, put_now, h.now]
  entries := by
    unfold put setex set
    split
    · split
      · simp only [Function.update_self, h.now]
      · exact h.entries
    · simp only [Function.update_self]

theorem mirrors_put_of_ne (h : Mirrors map key other place) {key' : K} {place' : L}
    (hkey : key ≠ key') (hplace : place ≠ place') (ttl : Int) (value : V) :
    Mirrors (map.put key' ttl value) key (other.put place' ttl value) place where
  now := by rw [put_now, put_now, h.now]
  entries := by rw [put_entries_of_ne hkey, put_entries_of_ne hplace, h.entries]

end Expiring

end Core
