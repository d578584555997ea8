import SvmCourse.Core.Expiring
import SvmCourse.Core.Glob
import SvmCourse.Core.Text

/-!
# Cache Namespaces

The cache service stores values under a key and a prefix. The two are joined by a
colon, and clearing a prefix deletes what matches the pattern of the prefix, a
colon and a star. Without a prefix the key stands alone, and everything is cleared.

Colons may occur in prefixes and in keys. So a prefix can go on where another one
ends, and pairs of a prefix and a key can be written in the same way. And a prefix
is not only a text in a pattern: its stars and brackets match more than
themselves, or less.

The store is a map whose keys are bytes. A value of null is not told from one that
is missing.

## Main definitions

* `CacheService`: Reading, storing and clearing.
* `Call`: A call that stores something, or time that passes.
* `stored`: A store in which each pair has an entry of its own.
* `Isolated`: What is promised of a pair after a prefix was cleared.
* `Confused`: Two pairs are written in the same way.
* `Cleared`: A pair is written in a way that the pattern of a prefix matches.
* `Apart`: A pair that nothing is confused with, and that only its own prefix
  clears.

## Theorems

* `mirrors_run`: A pair that nothing is confused with has an entry of its own.
* `isolated_iff`: The pairs that keep the promise.
* `isolated_of_simple`: Prefixes without colons and special characters keep it.
-/

namespace SvmCourse

namespace Caching

namespace Namespaces

open Core Core.Text Core.Expiring

/-! ### The service -/

/-- What stands between a namespace and a key. -/
def colon : UInt16 := 58

/-- The options of a cache access. -/
structure CacheOptions where
  /-- In seconds, and without a limit if it is zero. -/
  ttl : Int := 0
  /-- None at all if it is empty. -/
  keyPrefix : Text := []

/-- Keys are written in UTF-8. The value none is null. -/
abbrev Redis (V : Type) := Expiring (List UInt8) (Option V)

variable {V : Type}

namespace CacheService

/-- The key behind its namespace, or alone when there is none. -/
def getKey (key keyPrefix : Text) : Text :=
  if keyPrefix ≠ [] then keyPrefix ++ colon :: key else key

/-- The value stored at the key, if it has not expired. -/
def get (key : Text) (options : CacheOptions) (redis : Redis V) : Option V :=
  (redis.entry (bytes (getKey key options.keyPrefix))).bind Entry.value

/-- Store a value at the key, for as long as the options say. -/
def set (key : Text) (value : Option V) (options : CacheOptions) (redis : Redis V) : Redis V :=
  let cacheKey := bytes (getKey key options.keyPrefix)
  if options.ttl ≠ 0 then redis.setex cacheKey options.ttl value else redis.set cacheKey value

/-- Store several values, one after the other, with the same options. -/
def setMultiple (entries : List (Text × Option V)) (options : CacheOptions) (redis : Redis V) :
    Redis V :=
  entries.foldl (fun redis entry =>
    let cacheKey := bytes (getKey entry.1 options.keyPrefix)
    if options.ttl ≠ 0 then redis.setex cacheKey options.ttl entry.2
    else redis.set cacheKey entry.2) redis

/-- A prefix, a colon and a star. -/
def pattern (keyPrefix : Text) : List UInt8 := bytes (keyPrefix ++ [colon, 42])

/-- Delete what the pattern of the namespace matches, or everything when there is no
    namespace. -/
def clear (options : CacheOptions) (redis : Redis V) : Redis V :=
  if options.keyPrefix ≠ [] then
    redis.del (redis.keys (Glob.stringmatch (pattern options.keyPrefix)))
  else redis.flushdb

end CacheService

/-! ### Histories -/

/-- What a run does between two clears: it stores values, or lets time pass. -/
inductive Call (V : Type) where
  | set (key : Text) (value : Option V) (options : CacheOptions)
  | setMultiple (entries : List (Text × Option V)) (options : CacheOptions)
  | pass (milliseconds : Nat)

/-- A prefix with a key. -/
abbrev Pair := Text × Text

namespace Call

/-- What a call does to Redis. -/
def run : Call V → Redis V → Redis V
  | set key value options, redis => CacheService.set key value options redis
  | setMultiple entries options, redis => CacheService.setMultiple entries options redis
  | pass milliseconds, redis => redis.pass milliseconds

/-- The pairs that are written. -/
def pairs : Call V → List Pair
  | set key _ options => [(options.keyPrefix, key)]
  | setMultiple entries options => entries.map fun entry => (options.keyPrefix, entry.1)
  | pass _ => []

/-- What the call means for a store in which each pair has an entry of its own. -/
def store : Call V → Expiring Pair (Option V) → Expiring Pair (Option V)
  | set key value options, spaces => spaces.put (options.keyPrefix, key) options.ttl value
  | setMultiple entries options, spaces =>
    entries.foldl (fun spaces entry => spaces.put (options.keyPrefix, entry.1) options.ttl entry.2)
      spaces
  | pass milliseconds, spaces => spaces.pass milliseconds

end Call

/-- Redis after the calls, from nothing. -/
def after (calls : List (Call V)) : Redis V := calls.foldl (fun redis call => call.run redis) {}

/-- The spaces after the calls, from nothing. -/
def stored (calls : List (Call V)) : Expiring Pair (Option V) :=
  calls.foldl (fun spaces call => call.store spaces) {}

/-- What was stored last for a pair, unless it has expired. -/
def lastStored (calls : List (Call V)) (pair : Pair) : Option V :=
  ((stored calls).entry pair).bind Entry.value

/-- What is read back for a pair. -/
def read (pair : Pair) (redis : Redis V) : Option V :=
  CacheService.get pair.2 { keyPrefix := pair.1 } redis

/-- Storing a value for one pair does not change what is read for the other. -/
def Separate (V : Type) (pair other : Pair) : Prop :=
  ∀ (redis : Redis V) value ttl,
    read other (CacheService.set pair.2 value { ttl, keyPrefix := pair.1 } redis) = read other redis

/-- After the prefix was cleared, the pairs with this prefix are gone, and the others
    have what was stored for them last. No other pair shares the entry. -/
structure Isolated (calls : List (Call V)) (keyPrefix : Text) (pair : Pair) : Prop where
  kept : read pair (CacheService.clear { keyPrefix } (after calls)) =
    if pair.1 = keyPrefix then none else lastStored calls pair
  separate : ∀ other ∈ calls.flatMap Call.pairs, other ≠ pair → Separate V other pair

/-! ### How pairs are written -/

/-- What comes before the key. -/
def lead (keyPrefix : Text) : List Char :=
  if keyPrefix = [] then [] else chars keyPrefix ++ [':']

/-- The bytes at which a pair is stored. -/
def place (pair : Pair) : List UInt8 := bytes (CacheService.getKey pair.2 pair.1)

/-- What comes before the key of one pair goes on with the beginning of the key of
    the other. -/
def Confused (pair other : Pair) : Prop :=
  (∃ middle, lead other.1 = lead pair.1 ++ middle ∧ chars pair.2 = middle ++ chars other.2) ∨
    ∃ middle, lead pair.1 = lead other.1 ++ middle ∧ chars other.2 = middle ++ chars pair.2

/-- The pattern of the prefix matches. Without a prefix everything is cleared. -/
def Cleared (keyPrefix : Text) (pair : Pair) : Prop :=
  keyPrefix = [] ∨ Glob.stringmatch (CacheService.pattern keyPrefix) (place pair) = true

instance (keyPrefix : Text) (pair : Pair) : Decidable (Cleared keyPrefix pair) :=
  inferInstanceAs (Decidable (_ ∨ _))

/-- No pair that was stored is confused with this one, and if it has a value then
    exactly its own prefix clears it. -/
structure Apart (calls : List (Call V)) (keyPrefix : Text) (pair : Pair) : Prop where
  distinct : ∀ other ∈ calls.flatMap Call.pairs, other ≠ pair → ¬Confused other pair
  matched : lastStored calls pair ≠ none → (Cleared keyPrefix pair ↔ pair.1 = keyPrefix)

theorem chars_colon (before text : Text) :
    chars (before ++ colon :: text) = chars before ++ ':' :: chars text := by
  rw [chars_append_cons (by decide), chars_cons (by decide)]
  rfl

theorem chars_getKey (pair : Pair) :
    chars (CacheService.getKey pair.2 pair.1) = lead pair.1 ++ chars pair.2 := by
  unfold CacheService.getKey lead
  by_cases habsent : pair.1 = []
  · rw [if_neg (not_not_intro habsent), if_pos habsent, List.nil_append]
  · rw [if_pos habsent, if_neg habsent, chars_colon, List.append_assoc, List.singleton_append]

theorem place_eq_iff {pair other : Pair} : place pair = place other ↔ Confused pair other := by
  rw [place, place, bytes_inj, chars_getKey, chars_getKey, List.append_eq_append_iff]
  rfl

/-! ### Entries -/

variable {calls : List (Call V)} {keyPrefix : Text} {pair other : Pair}

theorem set_eq (key : Text) (value : Option V) (options : CacheOptions) (redis : Redis V) :
    CacheService.set key value options redis =
      redis.put (place (options.keyPrefix, key)) options.ttl value := rfl

theorem separate_iff [Inhabited V] : Separate V other pair ↔ ¬Confused other pair := by
  rw [← place_eq_iff]
  constructor
  · intro hseparate hplace
    -- A value that is stored for one of them is read for the other.
    have hread := hseparate {} (some default) 0
    have hstored : read pair (CacheService.set other.2 (some default)
        { ttl := 0, keyPrefix := other.1 } ({} : Redis V)) = some default := by
      have hentries : ((CacheService.set other.2 (some default)
          { ttl := 0, keyPrefix := other.1 } ({} : Redis V)).entries (place pair)) =
            some ⟨some default, none⟩ := by
        rw [← hplace]
        exact Function.update_self ..
      rw [read, CacheService.get, Expiring.entry, ← place, hentries]
      rfl
    rw [hstored] at hread
    exact absurd hread (by simp [read, CacheService.get, Expiring.entry])
  · intro hplace redis value ttl
    have hmirrors : Mirrors (redis.put (place other) ttl value) (place pair) redis (place pair) :=
      ⟨put_now .., put_entries_of_ne (Ne.symm hplace) ..⟩
    rw [set_eq, read, read, CacheService.get, CacheService.get]
    exact congrArg (Option.bind · Entry.value) hmirrors.entry_eq

theorem mirrors_foldl {redis : Redis V} {spaces : Expiring Pair (Option V)}
    (h : Mirrors redis (place pair) spaces pair) (entries : List (Text × Option V))
    (options : CacheOptions)
    (hdistinct : ∀ entry ∈ entries, (options.keyPrefix, entry.1) ≠ pair →
      ¬Confused (options.keyPrefix, entry.1) pair) :
    Mirrors (CacheService.setMultiple entries options redis) (place pair)
      ((Call.setMultiple entries options).store spaces) pair := by
  induction entries generalizing redis spaces with
  | nil => exact h
  | cons entry entries ih =>
      refine ih ?_ fun entry' hentry' => hdistinct entry' (List.mem_cons_of_mem _ hentry')
      change Mirrors (redis.put (place (options.keyPrefix, entry.1)) options.ttl entry.2) _
        (spaces.put (options.keyPrefix, entry.1) options.ttl entry.2) _
      by_cases hpair : (options.keyPrefix, entry.1) = pair
      · rw [hpair]
        exact mirrors_put h options.ttl entry.2
      · -- Another pair is written, and at another place.
        have hplace := mt place_eq_iff.mp (hdistinct entry (List.mem_cons_self ..) hpair)
        exact mirrors_put_of_ne h (Ne.symm hplace) (Ne.symm hpair) options.ttl entry.2

theorem mirrors_call {redis : Redis V} {spaces : Expiring Pair (Option V)}
    (h : Mirrors redis (place pair) spaces pair) (call : Call V)
    (hdistinct : ∀ other ∈ call.pairs, other ≠ pair → ¬Confused other pair) :
    Mirrors (call.run redis) (place pair) (call.store spaces) pair := by
  cases call with
  | set key value options =>
      -- One entry is a list of one.
      refine mirrors_foldl h [(key, value)] options fun entry hentry => ?_
      obtain rfl := List.mem_singleton.mp hentry
      exact hdistinct (options.keyPrefix, key) (List.mem_singleton_self _)
  | setMultiple entries options =>
      exact mirrors_foldl h entries options fun entry hentry =>
        hdistinct _ (List.mem_map_of_mem hentry)
  | pass milliseconds => exact mirrors_pass h milliseconds

/-- A pair that nothing is confused with has an entry of its own. -/
theorem mirrors_run
    (hdistinct : ∀ other ∈ calls.flatMap Call.pairs, other ≠ pair → ¬Confused other pair) :
    Mirrors (after calls) (place pair) (stored calls) pair := by
  have hall : ∀ (redis : Redis V) (spaces : Expiring Pair (Option V)),
      Mirrors redis (place pair) spaces pair →
        Mirrors (calls.foldl (fun redis call => call.run redis) redis) (place pair)
          (calls.foldl (fun spaces call => call.store spaces) spaces) pair := by
    -- What is stored before a call is any pair of stores that agree on this entry.
    induction calls with
    | nil => exact fun _ _ h => h
    | cons call calls ih =>
        intro redis spaces h
        rw [List.flatMap_cons] at hdistinct
        refine ih (fun other hother => hdistinct other (List.mem_append_right _ hother)) _ _ ?_
        exact mirrors_call h call fun other hother =>
          hdistinct other (List.mem_append_left _ hother)
  exact hall {} {} ⟨rfl, rfl⟩

/-! ### Clearing -/

theorem read_clear (redis : Redis V) :
    read pair (CacheService.clear { keyPrefix } redis) =
      if Cleared keyPrefix pair then none else read pair redis := by
  -- Without a prefix everything is dropped, with one the keys that match its pattern.
  by_cases habsent : keyPrefix = []
  · have hflush : CacheService.clear { keyPrefix } redis = redis.flushdb :=
      if_neg (not_not_intro habsent)
    have hcleared : Cleared keyPrefix pair := Or.inl habsent
    rw [if_pos hcleared, hflush]
    rfl
  · have hdel : CacheService.clear { keyPrefix } redis =
        redis.del (redis.keys (Glob.stringmatch (CacheService.pattern keyPrefix))) :=
      if_pos habsent
    rw [hdel, read, CacheService.get, ← place, entry_del_keys]
    simp only [Cleared, habsent, false_or]
    split
    · rfl
    · rfl

/-- A pair keeps the promise exactly if no pair that was stored is confused with it
    and, where it has a value, its own prefix is the one that clears it. Pairs are
    separate exactly if they are not confused. -/
theorem isolated_iff [Inhabited V] (calls : List (Call V)) (keyPrefix : Text) (pair : Pair) :
    (Isolated calls keyPrefix pair ↔ Apart calls keyPrefix pair) ∧
    ∀ other, Separate V other pair ↔ ¬Confused other pair := by
  refine ⟨?_, fun other => separate_iff⟩
  by_cases hdistinct : ∀ other ∈ calls.flatMap Call.pairs, other ≠ pair → ¬Confused other pair
  · -- What is read is what was stored, unless it is cleared.
    have hread : read pair (after calls) = lastStored calls pair :=
      congrArg (Option.bind · Entry.value) (mirrors_run hdistinct).entry_eq
    have hkept : read pair (CacheService.clear { keyPrefix } (after calls)) =
        (if pair.1 = keyPrefix then none else lastStored calls pair) ↔
          (lastStored calls pair ≠ none → (Cleared keyPrefix pair ↔ pair.1 = keyPrefix)) := by
      rw [read_clear, hread]
      by_cases hcleared : Cleared keyPrefix pair <;> by_cases hown : pair.1 = keyPrefix
      · simp [hcleared, hown]
      · simp [hcleared, hown, eq_comm]
      · simp [hcleared, hown]
      · simp [hcleared, hown]
    exact ⟨fun h => ⟨hdistinct, hkept.mp h.kept⟩,
      fun h => ⟨hkept.mpr h.matched, fun other hother hne =>
        separate_iff.mpr (hdistinct other hother hne)⟩⟩
  · -- A pair that is confused with this one is not separate from it.
    refine iff_of_false (fun h => hdistinct fun other hother hne => ?_) fun h =>
      hdistinct h.distinct
    exact separate_iff.mp (h.separate other hother hne)

/-! ### Simple prefixes -/

/-- A prefix that is given and has neither colons nor special characters. -/
structure Simple (keyPrefix : Text) : Prop where
  given : keyPrefix ≠ []
  wellFormed : WellFormed keyPrefix
  colonless : 58 ∉ bytes keyPrefix
  plain : Glob.Plain (bytes keyPrefix)

theorem bytes_colon (before text : Text) :
    bytes (before ++ colon :: text) = bytes before ++ 58 :: bytes text := by
  rw [bytes, chars_colon, List.flatMap_append]
  rfl

theorem place_simple (h : Simple pair.1) : place pair = bytes pair.1 ++ 58 :: bytes pair.2 := by
  rw [place, CacheService.getKey, if_pos h.given, bytes_colon]

theorem cleared_simple (h : Simple keyPrefix) (hpair : Simple pair.1) :
    Cleared keyPrefix pair ↔ pair.1 = keyPrefix := by
  have hpattern : CacheService.pattern keyPrefix = (bytes keyPrefix ++ [58]) ++ [Glob.star] := by
    rw [CacheService.pattern, bytes_colon, List.append_assoc]
    rfl
  have hplain : Glob.Plain (bytes keyPrefix ++ [58]) := by
    intro b hb
    rcases List.mem_append.mp hb with hb | hb
    · exact h.plain b hb
    · rw [List.mem_singleton.mp hb]
      decide
  rw [Cleared, or_iff_right h.given, hpattern, Glob.stringmatch_star hplain, place_simple hpair]
  constructor
  · rintro ⟨rest, hrest⟩
    rw [List.append_assoc, List.singleton_append] at hrest
    -- Up to the first colon both are the prefix.
    have hbytes := (split_inj h.colonless hpair.colonless hrest).1
    exact (h.wellFormed.eq_of_bytes hpair.wellFormed hbytes).symm
  · intro hown
    rw [hown]
    exact ⟨bytes pair.2, by rw [List.append_assoc, List.singleton_append]⟩

/-- Where all prefixes are simple, every pair keeps the promise. -/
theorem isolated_of_simple [Inhabited V] (hcleared : Simple keyPrefix) (hpair : Simple pair.1)
    (hkey : WellFormed pair.2)
    (hothers : ∀ other ∈ calls.flatMap Call.pairs, Simple other.1 ∧ WellFormed other.2) :
    Isolated calls keyPrefix pair := by
  refine (isolated_iff calls keyPrefix pair).1.mpr ⟨fun other hother hne hconfused => hne ?_,
    fun _ => cleared_simple hcleared hpair⟩
  rcases hothers other hother with ⟨hsimple, hwellFormed⟩
  have hplace := place_eq_iff.mpr hconfused
  rw [place_simple hsimple, place_simple hpair] at hplace
  rcases split_inj hsimple.colonless hpair.colonless hplace with ⟨hbytes, hbytes'⟩
  exact Prod.ext (hsimple.wellFormed.eq_of_bytes hpair.wellFormed hbytes)
    (hwellFormed.eq_of_bytes hkey hbytes')

/-- Clearing the prefix "a" takes what is stored under the prefix "a:b". -/
theorem prefix_cleared_with_another : ¬∀ (calls : List (Call Nat)) (keyPrefix : Text) (pair : Pair),
    Isolated calls keyPrefix pair := by
  intro h
  have hkept := (h [.set [99] (some 1) { keyPrefix := [97, 58, 98] }] [97]
    ([97, 58, 98], [99])).kept
  have hgone : read ([97, 58, 98], [99]) (CacheService.clear { keyPrefix := [97] }
      (after [.set [99] (some 1) { keyPrefix := [97, 58, 98] }])) = none := by decide
  have hstored : lastStored [.set [99] (some 1) { keyPrefix := [97, 58, 98] }]
      ([97, 58, 98], [99]) = some 1 := by decide
  rw [hgone, hstored] at hkept
  exact absurd hkept (by decide)

end Namespaces

end Caching

end SvmCourse
