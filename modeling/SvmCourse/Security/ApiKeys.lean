import Mathlib.Algebra.Group.Int.Defs
import SvmCourse.Core.Contributions
import SvmCourse.Security.Auth

/-!
# Revoking API Keys

A validation and a revocation look up a key and save it, changed in one thing,
with all its fields as they were looked up. In between, another call may have
saved the key, and what that one has changed is undone. So a validation that has
looked up a key before it was revoked makes it active again, and calls that
overlap lose the usage that others have counted.

As long as a key is saved over what was looked up, it stays revoked, and its usage
is what was accepted.

## Main definitions

* `KeyCall`: Validations and revocations.
* `Issued`: Each key has the hash of a text of its own.
* `Fresh`: When a key is saved over what was looked up.
* `Upheld`: What is promised of revoked keys and of the usage.

## Theorems

* `keyCall_follows`: What the calls have looked up and saved when they return.
* `key_law`: Keys that are not active stay so.
* `keys_upheld`: What holds if keys are saved over what was looked up.
-/

namespace SvmCourse

namespace Security

open Core Core.Prog Core.Machine Core.Sched

/-! ### Calls -/

/-- The calls that are interleaved. -/
inductive KeyCall where
  | validateApiKey (apiKey : String) (order : Nat → Nat) (clock : Nat → Int)
  | revokeApiKey (userId apiKeyId : Nat)

/-- Whoever validates an API key learns whether it was accepted. -/
def KeyCall.program (bcrypt : Bcrypt) : KeyCall → Service Unit
  | .validateApiKey apiKey order clock => do
    let validatedApiKey ← Security.validateApiKey bcrypt apiKey order clock
    let _ ← demand validatedApiKey "Invalid API key"
    pure ()
  | .revokeApiKey userId apiKeyId => Security.revokeApiKey userId apiKeyId

/-- Each key has the hash of a text of its own. -/
structure Issued (bcrypt : Bcrypt) (plainKey : Nat → String) (world : World) : Prop where
  compare : ∀ id key, world.apiKeys[id]? = some key → ∀ apiKey,
    (bcrypt.compare apiKey key.keyHash = true ↔ apiKey = plainKey id)
  distinct : ∀ i j, i < world.apiKeys.length → j < world.apiKeys.length →
    plainKey i = plainKey j → i = j

/-- A validation that has accepted the key. -/
def Accepts (plainKey : Nat → String) (id : Nat) (w : Watched World String KeyCall) : Bool :=
  match w.call with
  | .validateApiKey apiKey _ _ => apiKey = plainKey id && w.rest.outcome = some (.ok ())
  | .revokeApiKey _ _ => false

/-- A revocation of the key has returned. -/
def Revoked (id : Nat) (r : Recorded World String KeyCall) : Prop :=
  ∃ w ∈ r.calls, ∃ userId, w.call = .revokeApiKey userId id ∧ w.rest.outcome = some (.ok ())

/-- What was revoked halfway is not active in the end, and a validation that was
    started later returns nothing. When all calls have returned, the usage of a key
    has grown by the validations that have accepted it. -/
structure Upheld (plainKey : Nat → String) (world : World)
    (r r' : Recorded World String KeyCall) : Prop where
  inactive : ∀ id, Revoked id r →
    ∃ key, r'.store.apiKeys[id]? = some key ∧ key.status ≠ .ACTIVE
  rejected : ∀ id, Revoked id r → ∀ w ∈ r'.calls.drop r.calls.length, ∀ order clock,
    w.call = .validateApiKey (plainKey id) order clock →
    ∀ outcome, w.rest.outcome = some outcome → outcome = .error "Invalid API key"
  counted : (∀ w ∈ r'.calls, w.rest.unfinished = false) →
    ∀ id key, world.apiKeys[id]? = some key → ∃ key', r'.store.apiKeys[id]? = some key' ∧
      key'.usageCount = key.usageCount + (r'.calls.countP (Accepts plainKey id) : Int)

namespace World

/-- The status and the usage of a key. -/
def figures (world : World) (id : Nat) : Option (ApiKeyStatus × Int) :=
  world.apiKeys[id]?.map fun key => (key.status, key.usageCount)

/-- How often a key was used, by its row. -/
def usageOf (id : Nat) (world : World) : Int :=
  (world.apiKeys[id]?.map ApiKey.usageCount).getD 0

end World

/-- A key is saved over what was looked up: a validation finds the status and the
    usage that it has looked up, and a revocation the usage. -/
def Fresh (bcrypt : Bcrypt) (call : KeyCall) (seen : List (World × World)) (s _ : World) : Prop :=
  ∀ p ∈ seen.head?, match call with
  -- Saving writes the status and the usage that were looked up.
  | .validateApiKey apiKey _ _ => ∀ row ∈ p.1.keysOf (keyPrefixOf apiKey),
      bcrypt.compare apiKey row.1.keyHash = true → s.figures row.2 = p.1.figures row.2
  -- A revocation writes a status of its own, but the old usage.
  | .revokeApiKey _ apiKeyId =>
      (s.figures apiKeyId).map Prod.snd = (p.1.figures apiKeyId).map Prod.snd

instance (bcrypt : Bcrypt) (call : KeyCall) (seen : List (World × World)) (s t : World) :
    Decidable (Fresh bcrypt call seen s t) :=
  match call with
  | .validateApiKey _ _ _ => inferInstanceAs (Decidable (∀ p ∈ seen.head?, ∀ row ∈ _, _ → _))
  | .revokeApiKey _ _ => inferInstanceAs (Decidable (∀ p ∈ seen.head?, _))

/-! ### What calls do -/

/-- What a call makes of a key that it has looked up. -/
def Turns (bcrypt : Bcrypt) : KeyCall → Nat → ApiKey → ApiKey → Prop
  | .validateApiKey apiKey _ clock, id, key, key' =>
    key.keyPrefix = keyPrefixOf apiKey ∧ bcrypt.compare apiKey key.keyHash = true ∧
      key.status = .ACTIVE ∧ key' = key.used (clock id)
  | .revokeApiKey _ apiKeyId, id, key, key' => id = apiKeyId ∧
    key' = { key with status := .REVOKED }

/-- What an access may do: nothing, or turn the key it has found. -/
def Does (bcrypt : Bcrypt) (call : KeyCall) (seen : List (World × World)) (s t : World) : Prop :=
  t = s ∨ ∃ p id key key', seen = [p] ∧ p.1.apiKeys[id]? = some key ∧
    Turns bcrypt call id key key' ∧ t = s.setApiKey id key'

/-- A call that succeeds has looked a key up and saved it, and one that does not
    has only looked it up. -/
def Taken (bcrypt : Bcrypt) (call : KeyCall) (seen : List (World × World)) :
    Except String Unit → Prop
  | .ok _ => ∃ s t id key key', seen = [(s, s), (t, t.setApiKey id key')] ∧
      s.apiKeys[id]? = some key ∧ Turns bcrypt call id key key'
  | .error message => (∃ s, seen = [(s, s)]) ∧
      ∀ apiKey order clock, call = .validateApiKey apiKey order clock →
        message = "Invalid API key"

section

variable {bcrypt : Bcrypt} {plainKey : Nat → String} {call : KeyCall} {id : Nat}
  {seen : List (World × World)} {s t : World} {key key' : ApiKey}

theorem mem_keysOf {keyPrefix : String} {row : ApiKey × Nat} :
    row ∈ s.keysOf keyPrefix ↔
      s.apiKeys[row.2]? = some row.1 ∧ row.1.keyPrefix = keyPrefix := by
  rw [World.keysOf, List.mem_filter, List.mem_zipIdx_iff_getElem?, decide_eq_true_iff]

/-- Comparing keys that were looked up. -/
theorem validateKeys_follows {apiKey : String} {clock : Nat → Int} {s : World}
    {order : Nat → Nat} (keys : List (ApiKey × Nat))
    (hkeys : ∀ row ∈ keys, row ∈ s.keysOf (keyPrefixOf apiKey)) :
    (validateKeys bcrypt apiKey clock keys).Follows
      (watching (Does bcrypt (.validateApiKey apiKey order clock)))
      (fun seen r => match r with
        | .ok (some _) => Taken bcrypt (.validateApiKey apiKey order clock) seen (.ok ())
        | .ok none => seen = [(s, s)]
        | .error _ => False) [(s, s)] := by
  -- Keys that do not match cost no access to the database.
  induction keys with
  | nil => exact rfl
  | cons row keys ih =>
      obtain ⟨hrow, hrest⟩ := List.forall_mem_cons.mp hkeys
      rw [validateKeys]
      split
      · next hmatch =>
          rw [Bool.and_eq_true, ApiKey.isValid, Bool.and_eq_true, decide_eq_true_iff] at hmatch
          obtain ⟨hget, hbegins⟩ := mem_keysOf.mp hrow
          have hturns : Turns bcrypt (.validateApiKey apiKey order clock) row.2 row.1
              (row.1.used (clock row.2)) := ⟨hbegins, hmatch.1, hmatch.2.1, rfl⟩
          refine follows_bind (follows_watching fun t => ⟨?_, ?_⟩)
          · exact .inr ⟨(s, s), row.2, row.1, _, rfl, hget, hturns, rfl⟩
          · exact ⟨s, t, row.2, row.1, _, rfl, hget, hturns⟩
      · exact ih hrest

/-- What the calls have looked up and saved when they return. -/
theorem keyCall_follows (bcrypt : Bcrypt) (call : KeyCall) :
    (call.program bcrypt).Follows (watching (Does bcrypt call)) (Taken bcrypt call) [] := by
  cases call with
  | validateApiKey apiKey order clock =>
      refine follows_bind (follows_bind (follows_watching fun s => ⟨.inl rfl, ?_⟩))
      refine follows_mono (validateKeys_follows _ fun row hrow => ?_) fun seen r hr => ?_
      · -- The order is no matter, only which keys there are.
        exact (List.mem_insertionSort _).mp hrow
      · cases r with
        | error message => exact hr.elim
        | ok validated =>
            cases validated with
            | some key => exact hr
            | none => exact ⟨⟨s, hr⟩, fun _ _ _ _ => rfl⟩
  | revokeApiKey userId apiKeyId =>
      refine follows_bind (follows_watching fun s => ⟨.inl rfl, ?_⟩)
      refine follows_bind (follows_demand (fun key hkey => ?_) fun _ => ?_)
      · have hget := (Option.filter_eq_some_iff.mp hkey).1
        refine follows_watching fun t => ⟨?_, ?_⟩
        · exact .inr ⟨(s, s), apiKeyId, key, _, rfl, hget, ⟨rfl, rfl⟩, rfl⟩
        · exact ⟨s, t, apiKeyId, key, _, rfl, hget, rfl, rfl⟩
      · exact ⟨⟨s, rfl⟩, fun _ _ _ h => nomatch h⟩

/-! ### What stays -/

/-- Keys keep their hashes, and those that are not active stay so. -/
structure Later (s t : World) : Prop where
  hashes : t.apiKeys.map ApiKey.keyHash = s.apiKeys.map ApiKey.keyHash
  inactive : ∀ (id : Nat) (key key' : ApiKey), s.apiKeys[id]? = some key → key.status ≠ .ACTIVE →
    t.apiKeys[id]? = some key' → key'.status ≠ .ACTIVE

theorem Later.length (h : Later s t) : t.apiKeys.length = s.apiKeys.length := by
  have := congrArg List.length h.hashes
  rwa [List.length_map, List.length_map] at this

/-- A key that there was is still there, with its hash. -/
theorem Later.get (h : Later s t) (hkey : s.apiKeys[id]? = some key) :
    ∃ key', t.apiKeys[id]? = some key' ∧ key'.keyHash = key.keyHash := by
  have hhash : (t.apiKeys.map ApiKey.keyHash)[id]? = some key.keyHash := by
    rw [h.hashes, List.getElem?_map, hkey]
    rfl
  rw [List.getElem?_map] at hhash
  exact Option.map_eq_some_iff.mp hhash

theorem later_refl (s : World) : Later s s where
  hashes := rfl
  inactive _ key key' h hinactive h' := by
    rw [h] at h'
    cases h'
    exact hinactive

theorem later_trans {u : World} (h : Later s t) (h' : Later t u) : Later s u where
  hashes := h'.hashes.trans h.hashes
  inactive id key key' hkey hinactive hkey' := by
    obtain ⟨key₁, hkey₁, -⟩ := h.get hkey
    exact h'.inactive id key₁ key' hkey₁ (h.inactive id key key₁ hkey hinactive hkey₁) hkey'

theorem issued_of_later (h : Issued bcrypt plainKey s) (hlater : Later s t) :
    Issued bcrypt plainKey t where
  compare id key hkey apiKey := by
    have hlt : id < s.apiKeys.length :=
      hlater.length ▸ (List.getElem?_eq_some_iff.mp hkey).1
    -- Hashes and places stay, so the texts do.
    have hbefore := List.getElem?_eq_getElem hlt
    obtain ⟨key', hkey', hhash⟩ := hlater.get hbefore
    rw [hkey] at hkey'
    cases hkey'
    rw [hhash]
    exact h.compare id _ hbefore apiKey
  distinct i j hi hj := by
    rw [hlater.length] at hi hj
    exact h.distinct i j hi hj

theorem Turns.keyHash (h : Turns bcrypt call id key key') : key'.keyHash = key.keyHash := by
  cases call with
  | validateApiKey apiKey order clock => exact h.2.2.2 ▸ rfl
  | revokeApiKey userId apiKeyId => exact h.2 ▸ rfl

/-- A key that is saved over what was looked up has the usage that was looked up,
    and has become active by nobody else. -/
theorem fresh_turns {p : World × World} {key₀ : ApiKey} (hfresh : Fresh bcrypt call [p] s t)
    (hkey : p.1.apiKeys[id]? = some key) (hturns : Turns bcrypt call id key key')
    (hkey₀ : s.apiKeys[id]? = some key₀) :
    key₀.usageCount = key.usageCount ∧ (key₀.status ≠ .ACTIVE → key'.status ≠ .ACTIVE) := by
  -- A validation has looked up status and usage, a revocation the usage only.
  cases call with
  | validateApiKey apiKey order clock =>
      obtain ⟨hbegins, hmatch, hactive, rfl⟩ := hturns
      have hsame := hfresh p rfl (key, id) (mem_keysOf.mpr ⟨hkey, hbegins⟩) hmatch
      rw [World.figures, World.figures, hkey₀, hkey] at hsame
      obtain ⟨hstatus, husage⟩ := Prod.mk.inj (Option.some_inj.mp hsame)
      exact ⟨husage, fun hinactive => absurd (hstatus.trans hactive) hinactive⟩
  | revokeApiKey userId apiKeyId =>
      obtain ⟨rfl, rfl⟩ := hturns
      have hsame : (s.figures id).map Prod.snd = (p.1.figures id).map Prod.snd := hfresh p rfl
      rw [World.figures, World.figures, hkey₀, hkey] at hsame
      exact ⟨Option.some_inj.mp hsame, fun _ => ApiKeyStatus.noConfusion⟩

/-- Saving a key over what was looked up. -/
theorem later_setApiKey {p : World × World} (hfresh : Fresh bcrypt call [p] s t)
    (hkey : p.1.apiKeys[id]? = some key) (hturns : Turns bcrypt call id key key')
    (hlater : Later p.1 s) : Later s (s.setApiKey id key') := by
  obtain ⟨key₀, hkey₀, hhash⟩ := hlater.get hkey
  obtain ⟨hlt, hget⟩ := List.getElem?_eq_some_iff.mp hkey₀
  constructor
  · -- The key is saved with the hash that it has.
    have hlt' : id < (s.apiKeys.map ApiKey.keyHash).length := by rwa [List.length_map]
    have hself := List.set_getElem_self hlt'
    rw [List.getElem_map, hget, hhash, ← hturns.keyHash] at hself
    rw [World.setApiKey, List.map_set]
    exact hself
  · intro i k k' hk hinactive hk'
    -- Only the key that is saved can have become active.
    by_cases hi : i = id
    · subst hi
      rw [hkey₀] at hk
      cases hk
      rw [World.setApiKey, List.getElem?_set_self hlt] at hk'
      cases hk'
      exact (fresh_turns hfresh hkey hturns hkey₀).2 hinactive
    · rw [World.setApiKey, List.getElem?_set_ne (Ne.symm hi), hk] at hk'
      cases hk'
      exact hinactive

/-- Keys that are not active stay so. -/
theorem key_law (bcrypt : Bcrypt) (plainKey : Nat → String) :
    HistoryLaw (Does bcrypt) (Fresh bcrypt) Later (Issued bcrypt plainKey) where
  refl := later_refl
  trans _ _ _ := later_trans
  step call seen s t hissued hpast _ hdoes hfresh := by
    have hlater : Later s t := by
      rcases hdoes with rfl | ⟨p, id, key, key', rfl, hkey, hturns, rfl⟩
      · exact later_refl _
      · have hp := List.mem_singleton_self p
        exact later_setApiKey hfresh hkey hturns
          (later_trans (hpast.access p hp) (hpast.past p hp))
    exact ⟨hlater, issued_of_later hissued hlater⟩

/-! ### Promises -/

/-- The keys of a history are those that were issued. -/
abbrev KeysRecalled (bcrypt : Bcrypt) (plainKey : Nat → String)
    (r : Recorded World String KeyCall) : Prop :=
  Recalled (Does bcrypt) (Fresh bcrypt) (Taken bcrypt) Later (Issued bcrypt plainKey) r

variable {r r' : Recorded World String KeyCall}

/-- A key that was revoked is not active. -/
theorem inactive_of_revoked (h : KeysRecalled bcrypt plainKey r) (hrevoked : Revoked id r) :
    ∃ key, r.store.apiKeys[id]? = some key ∧ key.status ≠ .ACTIVE := by
  obtain ⟨w, hw, userId, hcall, hok⟩ := hrevoked
  have hw' := h.calls w hw
  have htaken := follows_outcome hw'.follows hok
  rw [hcall] at htaken
  obtain ⟨s, t, i, key, _, hseen, hkey, hi, rfl⟩ := htaken
  rw [hi] at hseen hkey
  have hpast := hw'.past
  rw [hseen] at hpast
  -- Between the two accesses no key has gone.
  have hfound : Later s t := by
    have horder := (List.pairwise_cons.mp hpast.order).1
    exact horder (t, t.setApiKey id { key with status := .REVOKED }) (by simp)
  obtain ⟨key₀, hkey₀, -⟩ := hfound.get hkey
  -- Right after its save the key is revoked.
  have hset : (t.setApiKey id { key with status := .REVOKED }).apiKeys[id]? =
      some { key with status := .REVOKED } :=
    List.getElem?_set_self (List.getElem?_eq_some_iff.mp hkey₀).1
  have hsince := hpast.past (t, t.setApiKey id { key with status := .REVOKED }) (by simp)
  obtain ⟨key', hkey', -⟩ := hsince.get hset
  exact ⟨key', hkey', hsince.inactive id _ key' hset ApiKeyStatus.noConfusion hkey'⟩

/-- What a validation has accepted is the key of the text, and was active when it
    was looked up. -/
theorem accepted_of_ok (h : KeysRecalled bcrypt plainKey r) {w : Watched World String KeyCall}
    (hw : w ∈ r.calls) {order : Nat → Nat} {clock : Nat → Int}
    (hcall : w.call = .validateApiKey (plainKey id) order clock)
    (hid : id < r.store.apiKeys.length) (hok : w.rest.outcome = some (.ok ())) :
    ∃ u ∈ w.lived, ∃ key, u.apiKeys[id]? = some key ∧ key.status = .ACTIVE := by
  have hw' := h.calls w hw
  have htaken := follows_outcome hw'.follows hok
  rw [hcall] at htaken
  obtain ⟨s, t, i, key, _, hseen, hkey, -, hmatch, hactive, -⟩ := htaken
  have hmem : (s, s) ∈ w.seen := by
    rw [hseen]
    exact List.mem_cons_self ..
  have hs : s ∈ w.lived := hw'.found _ hmem
  have hissued : Issued bcrypt plainKey s := hw'.past.kept _ hmem
  have hlength := (hw'.lived s hs).length
  have hi := (List.getElem?_eq_some_iff.mp hkey).1
  -- Texts and keys belong together, so the key that matched is the one that was
  -- issued.
  obtain rfl := hissued.distinct id i (hlength ▸ hid) hi ((hissued.compare i key hkey _).mp hmatch)
  exact ⟨s, hs, key, hkey, hactive⟩

/-- What an access that saves a key adds to a usage. -/
theorem usageOf_setApiKey {key₀ : ApiKey} (hkey₀ : t.apiKeys[id]? = some key₀) (i : Nat) :
    (t.setApiKey id key').usageOf i - t.usageOf i =
      if i = id then key'.usageCount - key₀.usageCount else 0 := by
  rw [World.usageOf, World.usageOf, World.setApiKey]
  by_cases hi : i = id
  · subst hi
    rw [if_pos rfl, List.getElem?_set_self (List.getElem?_eq_some_iff.mp hkey₀).1, hkey₀]
    rfl
  · rw [if_neg hi, List.getElem?_set_ne (Ne.symm hi), Int.sub_self]

/-- The key with this text is the only one that matches. -/
theorem matches_iff {i : Nat} {apiKey : String} (h : Issued bcrypt plainKey s)
    (hkey : s.apiKeys[i]? = some key) (hmatch : bcrypt.compare apiKey key.keyHash = true)
    (hid : id < s.apiKeys.length) : apiKey = plainKey id ↔ id = i := by
  rw [h.compare i key hkey apiKey] at hmatch
  rw [hmatch]
  constructor
  · intro hsame
    exact (h.distinct i id (List.getElem?_eq_some_iff.mp hkey).1 hid hsame).symm
  · rintro rfl
    rfl

/-- A call that has saved a key adds what it has added to the key it has looked up. -/
theorem change_of_turns (h : KeysRecalled bcrypt plainKey r)
    {w : Watched World String KeyCall} (hw : w ∈ r.calls) {i : Nat}
    (hseen : w.seen = [(s, s), (t, t.setApiKey i key')]) (hkey : s.apiKeys[i]? = some key)
    (hturns : Turns bcrypt w.call i key key') (id : Nat) :
    w.change (World.usageOf id) = if id = i then key'.usageCount - key.usageCount else 0 := by
  have hpast := (h.calls w hw).past
  have hmet := (h.calls w hw).met
  rw [hseen] at hpast hmet
  have hfound : Later s t :=
    (List.pairwise_cons.mp hpast.order).1 (t, t.setApiKey i key') (by simp)
  obtain ⟨key₀, hkey₀, -⟩ := hfound.get hkey
  obtain ⟨husage, -⟩ := fresh_turns (hmet [(s, s)] _ [] rfl) hkey hturns hkey₀
  rw [Watched.change, hseen]
  simp only [List.map_cons, List.map_nil, List.sum_cons, List.sum_nil, Int.sub_self,
    usageOf_setApiKey hkey₀, husage, Int.zero_add, Int.add_zero]

/-- A call that has returned has added one to the usage of the key it has
    accepted. -/
theorem change_of_returned (h : KeysRecalled bcrypt plainKey r)
    {w : Watched World String KeyCall} (hw : w ∈ r.calls)
    (hreturned : w.rest.unfinished = false) (hid : id < r.store.apiKeys.length) :
    w.change (World.usageOf id) = if Accepts plainKey id w then 1 else 0 := by
  have hw' := h.calls w hw
  obtain ⟨outcome, houtcome⟩ := outcome_of_finished hreturned
  have htaken := follows_outcome hw'.follows houtcome
  cases outcome with
  | error message =>
      -- It has saved nothing, and accepted nothing.
      obtain ⟨⟨s, hseen⟩, -⟩ := htaken
      have hnot : Accepts plainKey id w = false := by
        unfold Accepts
        rw [houtcome]
        split
        · exact Bool.and_false _
        · rfl
      rw [hnot, Watched.change, hseen]
      simp
  | ok done =>
      -- It has looked a key up, and saved it with one use more or as revoked.
      obtain ⟨s, t, i, key, key', hseen, hkey, hturns⟩ := htaken
      rw [change_of_turns h hw hseen hkey hturns, Accepts, houtcome]
      have hfirst : (s, s) ∈ w.seen := by
        rw [hseen]
        exact List.mem_cons_self ..
      cases hcall : w.call with
      | revokeApiKey userId apiKeyId =>
          rw [hcall] at hturns
          obtain ⟨rfl, rfl⟩ := hturns
          simp
      | validateApiKey apiKey order clock =>
          rw [hcall] at hturns
          obtain ⟨-, hmatch, -, rfl⟩ := hturns
          have hlater : Later s r.store := hw'.past.past (s, s) hfirst
          have hiff := matches_iff (hw'.past.kept (s, s) hfirst) hkey hmatch (hlater.length ▸ hid)
          have hone : (key.used (clock i)).usageCount - key.usageCount = 1 := by
            simp only [ApiKey.used]
            omega
          simp [hiff, hone]

/-- The usage of a key grows by what all calls have added. -/
theorem usageOf_after (moves : List (Move KeyCall)) (world : World) (id : Nat) :
    (after (record (KeyCall.program bcrypt)) moves ⟨world, []⟩).store.usageOf id =
      world.usageOf id +
        (after (record (KeyCall.program bcrypt)) moves ⟨world, []⟩).change (World.usageOf id) := by
  have hchange := change_after (World.usageOf id) (KeyCall.program bcrypt) moves ⟨world, []⟩
  -- No call, no change.
  have hnothing : (⟨world, []⟩ : Recorded World String KeyCall).change (World.usageOf id) = 0 :=
    rfl
  rw [hnothing] at hchange
  change _ = world.usageOf id - 0 at hchange
  omega

theorem usageOf_eq (hkey : s.apiKeys[id]? = some key) : s.usageOf id = key.usageCount := by
  rw [World.usageOf, hkey]
  rfl

/-- A validation of a key that was not active before it started returns nothing. -/
theorem rejected_of_inactive (h : KeysRecalled bcrypt plainKey r)
    (hkey : s.apiKeys[id]? = some key) (hinactive : key.status ≠ .ACTIVE)
    (hlater : Later s r.store) {w : Watched World String KeyCall} (hw : w ∈ r.calls)
    (hlived : ∀ u ∈ w.lived, Later s u) {order : Nat → Nat} {clock : Nat → Int}
    (hcall : w.call = .validateApiKey (plainKey id) order clock) {outcome : Except String Unit}
    (houtcome : w.rest.outcome = some outcome) : outcome = .error "Invalid API key" := by
  cases outcome with
  | error message =>
      have htaken := follows_outcome (h.calls w hw).follows houtcome
      rw [htaken.2 _ order clock hcall]
  | ok done =>
      have hid := (List.getElem?_eq_some_iff.mp hkey).1
      rw [← hlater.length] at hid
      -- Accepted, it would have seen the key active while it ran.
      obtain ⟨u, hu, key', hkey', hactive⟩ := accepted_of_ok h hw hcall hid houtcome
      exact absurd hactive ((hlived u hu).inactive id key key' hkey hinactive hkey')

variable {world : World} {before later : List (Move KeyCall)}

/-- If keys are saved over what was looked up, a revoked key stays revoked, and the
    usage is what was accepted. -/
theorem keys_upheld (hissued : Issued bcrypt plainKey world)
    (hfresh : Along (record (KeyCall.program bcrypt)) (fun m r _ _ => heeds (Fresh bcrypt) m r)
      (before ++ later) ⟨world, []⟩) :
    Upheld plainKey world (after (record (KeyCall.program bcrypt)) before ⟨world, []⟩)
      (after (record (KeyCall.program bcrypt)) (before ++ later) ⟨world, []⟩) := by
  have hlaw := key_law bcrypt plainKey
  have hfollows := keyCall_follows bcrypt
  obtain ⟨hbefore, hthen⟩ := along_append.mp hfresh
  -- The run is looked at in the middle and at the end.
  obtain ⟨hhalf, hfirst⟩ := extended_after hlaw hfollows (recalled_start hissued) hbefore
  obtain ⟨hend, hsecond⟩ := extended_after hlaw hfollows hhalf hthen
  have hlived := lived_later hlaw hfollows hhalf hthen
  rw [← after_append] at hend hsecond hlived
  refine ⟨fun id hrevoked => ?_, fun id hrevoked w hw order clock hcall outcome houtcome => ?_,
    fun hreturned id key hkey => ?_⟩
  · -- A key that is inactive in the middle is inactive at the end.
    obtain ⟨key, hkey, hinactive⟩ := inactive_of_revoked hhalf hrevoked
    obtain ⟨key', hkey', -⟩ := hsecond.get hkey
    exact ⟨key', hkey', hsecond.inactive id key key' hkey hinactive hkey'⟩
  · obtain ⟨key, hkey, hinactive⟩ := inactive_of_revoked hhalf hrevoked
    exact rejected_of_inactive hend hkey hinactive hsecond (List.mem_of_mem_drop hw)
      (hlived w hw) hcall houtcome
  · obtain ⟨key', hkey', -⟩ := (later_trans hfirst hsecond).get hkey
    have hid := (List.getElem?_eq_some_iff.mp hkey').1
    have hcount := change_eq_countP fun w hw => change_of_returned hend hw (hreturned w hw) hid
    refine ⟨key', hkey', ?_⟩
    rw [← usageOf_eq hkey', ← usageOf_eq hkey, usageOf_after, hcount]

end

/-- Hashes that are the text itself. -/
def plainBcrypt : Bcrypt where
  hash text _ _ := text
  compare text hash := hash = text

/-- One key, whose text is its prefix. -/
def sampleKeys : World where
  apiKeys := [{ userId := 0, keyHash := "sk_12345", keyPrefix := "sk_12345" }]

/-- The keys of the witness. -/
def sampleText (id : Nat) : String := if id = 0 then "sk_12345" else "sk_other"

/-- The call of the witness. -/
def sampleValidation : KeyCall := .validateApiKey "sk_12345" id fun _ => 0

theorem sampleKeys_issued : Issued plainBcrypt sampleText sampleKeys where
  compare id key hkey apiKey := by
    have hid : id = 0 := by
      have hlt := (List.getElem?_eq_some_iff.mp hkey).1
      exact Nat.lt_one_iff.mp hlt
    subst hid
    cases hkey
    simp [plainBcrypt, sampleText, eq_comm]
  distinct i j hi hj _ := by
    rw [Nat.lt_one_iff.mp hi, Nat.lt_one_iff.mp hj]

/-- A validation, a revocation, and another validation, one after the other. -/
theorem sampleKeys_upheld : Upheld sampleText sampleKeys
    (after (record (KeyCall.program plainBcrypt))
      [.start sampleValidation, .access 0, .access 0, .start (.revokeApiKey 0 0), .access 1,
        .access 1] ⟨sampleKeys, []⟩)
    (after (record (KeyCall.program plainBcrypt))
      ([.start sampleValidation, .access 0, .access 0, .start (.revokeApiKey 0 0), .access 1,
        .access 1] ++ [.start sampleValidation, .access 2]) ⟨sampleKeys, []⟩) :=
  keys_upheld sampleKeys_issued (by decide +kernel)

/-- A validation that has looked up the key before the revocation saves it
    afterwards, and makes it active again. -/
theorem not_upheld : ¬Upheld sampleText sampleKeys
    (after (record (KeyCall.program plainBcrypt))
      [.start sampleValidation, .access 0, .start (.revokeApiKey 0 0), .access 1, .access 1]
      ⟨sampleKeys, []⟩)
    (after (record (KeyCall.program plainBcrypt))
      ([.start sampleValidation, .access 0, .start (.revokeApiKey 0 0), .access 1, .access 1] ++
        [.access 0]) ⟨sampleKeys, []⟩) := by
  intro h
  have hrevoked : Revoked 0 (after (record (KeyCall.program plainBcrypt))
      [.start sampleValidation, .access 0, .start (.revokeApiKey 0 0), .access 1, .access 1]
      ⟨sampleKeys, []⟩) := ⟨_, List.mem_cons_of_mem _ (List.mem_singleton_self _), 0, rfl, rfl⟩
  obtain ⟨key, hkey, hinactive⟩ := h.inactive 0 hrevoked
  have hactive : (after (record (KeyCall.program plainBcrypt))
      ([.start sampleValidation, .access 0, .start (.revokeApiKey 0 0), .access 1, .access 1] ++
        [.access 0]) ⟨sampleKeys, []⟩).store.apiKeys[0]?.map ApiKey.status = some .ACTIVE := by
    decide +kernel
  rw [hkey] at hactive
  exact hinactive (Option.some_inj.mp hactive)

end Security

end SvmCourse
