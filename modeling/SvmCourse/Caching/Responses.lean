import SvmCourse.Caching.Namespaces
import SvmCourse.Core.Contributions
import SvmCourse.Core.JsonScan

/-!
# Cached Responses

The routes of accounts and tokens keep their responses. The key of a response is
made of the method, the address, the query and the body of the request, with
colons between them, and its prefix and time to live come with the route. The
cache of query results uses the same store.

Requests overlap: a request looks its response up, and if there is none, waits for
the handler, answers, and only then stores what it has answered. The store may fail
either time. What a handler answers, and whether the store fails, comes with the
request.

## Main definitions

* `Request`, `CacheOptions`, `Routing`: What an answer depends on.
* `cacheKey`: The key of a response.
* `intercept`: A request, from the lookup to the storing.
* `Sound`: A response is what the handler of this request has answered, now or
  within the time to live.

## Theorems

* `cacheKey_inj`: The key of a response determines the request.
* `responses_sound`: Every response is sound, in every schedule.
-/

namespace SvmCourse

namespace Caching

namespace Responses

open Core Core.Prog Core.Sched Core.Machine Core.Json Core.Text
open Namespaces (Redis CacheService.get CacheService.set CacheService.getKey colon)

/-! ### Requests -/

/-- What the interceptor reads of a request. -/
structure Request where
  method : String
  url : String
  /-- None is undefined. -/
  query : Option Json.Value
  body : Option Json.Value
  /-- No method of the protocol has a colon. -/
  colonless : ':' ∉ method.toList

/-- What is given with the decorator. Zero and the empty text stand for what is not
    given. -/
structure CacheOptions where
  ttl : Nat := 0
  key : String := ""
  keyPrefix : String := ""
  deriving DecidableEq

/-- The decorators there are, and none. -/
def decorations : List CacheOptions := [
  {},
  { ttl := 300, keyPrefix := "tokens" },
  { ttl := 300, keyPrefix := "accounts" },
  { ttl := 60, keyPrefix := "blockchain" },
  { ttl := 30, keyPrefix := "blockchain" }]

/-- The decorator of the handler that a method and an address lead to. -/
structure Routing where
  options : String → String → CacheOptions
  among : ∀ method url, options method url ∈ decorations

/-- The options of the route that a request takes. -/
def Routing.of (routing : Routing) (request : Request) : CacheOptions :=
  routing.options request.method request.url

/-! ### The interceptor -/

/-- What a value is in a template text. -/
def jsonText : Option Json.Value → List Char
  | none => "undefined".toList
  | some value => value.text

/-- The key of a response: the one the route names, or all that the request says. -/
def cacheKey (options : CacheOptions) (request : Request) : List Char :=
  if options.key ≠ "" then options.key.toList
  else request.method.toList ++ ':' :: (request.url.toList ++ ':' :: (jsonText request.query ++
    ':' :: jsonText request.body))

/-- The namespace of a route, or the default one. -/
def CacheOptions.withPrefix (options : CacheOptions) : String :=
  if options.keyPrefix ≠ "" then options.keyPrefix else "response"

/-- The options of the cache service. -/
def CacheOptions.service (options : CacheOptions) : Namespaces.CacheOptions where
  ttl := options.ttl
  keyPrefix := ofChars options.withPrefix.toList

/-- Zero is written in one way only. -/
def truthy : Json.Value → Bool
  | .null => false
  | .bool b => b
  | .number n => n.chars ≠ ['0']
  | .string text => text ≠ ""
  | .array _ => true
  | .object _ => true

/-- A handler's answer as it is stored: null and undefined are read back as null. -/
def serialized : Option Json.Value → Option Json.Value
  | some .null => none
  | answer => answer

/-- A request, what its handler answered, and when. -/
structure Handled where
  request : Request
  answer : Option Json.Value
  time : Nat

/-- A request, what was stored for it, and when. -/
structure Stored where
  request : Request
  value : Option Json.Value
  time : Nat

/-- A request, what it was served, whether from the cache, and when. -/
structure Served where
  request : Request
  value : Option Json.Value
  hit : Bool
  time : Nat

/-- The store of the cache, and what has happened so far. -/
structure World where
  redis : Redis Json.Value := {}
  handled : List Handled := []
  stored : List Stored := []
  served : List Served := []

section

variable (routing : Routing) (request : Request)

/-- The stored response, if Redis can be read. -/
def World.cachedResponse (w : World) : Option Json.Value :=
  CacheService.get (ofChars (cacheKey (routing.of request) request)) (routing.of request).service
    w.redis

/-- Look the response up. If it is there, it is answered. -/
def World.lookUp (readable : Bool) (w : World) : Bool × World :=
  match (if readable then w.cachedResponse routing request else none).filter truthy with
  | some value =>
    (true, { w with served := w.served ++ [⟨request, some value, true, w.redis.now⟩] })
  | none => (false, w)

/-- The handler has answered, and so does the request. -/
def World.answer (answer : Option Json.Value) (w : World) : World :=
  { w with
    handled := w.handled ++ [⟨request, answer, w.redis.now⟩]
    served := w.served ++ [⟨request, answer, false, w.redis.now⟩] }

/-- The world after a response is stored, if Redis can be written. -/
def World.store (writable : Bool) (answer : Option Json.Value) (w : World) : World :=
  if writable then
    { w with
      redis := CacheService.set (ofChars (cacheKey (routing.of request) request))
        (serialized answer) (routing.of request).service w.redis
      stored := w.stored ++ [⟨request, serialized answer, w.redis.now⟩] }
  else w

end

/-- One access, which is not refused. -/
def step {α : Type} (other : α) (act : World → α × World) : Prog World String α :=
  .access act .done (.done other)

/-- Without a time to live nothing is looked up or stored. -/
def intercept (routing : Routing) (request : Request) (outcome : Except String (Option Json.Value))
    (readable writable : Bool) : Prog World String Unit :=
  if (routing.of request).ttl = 0 then
    -- A request that is not cached goes to its handler.
    (compute outcome).bind fun answer => step () fun w => ((), w.answer request answer)
  else
    (step false (World.lookUp routing request readable)).bind fun hit =>
      -- A cached answer is sent without the handler.
      if hit then .done ()
      else
        (compute outcome).bind fun answer =>
          (step () fun w => ((), w.answer request answer)).bind fun _ =>
            -- The answer is sent first and stored afterwards.
            step () fun w => ((), w.store routing request writable answer)

/-- The keys of query results, which come without a prefix of the cache service. -/
def queryKey (key : String) : Text := ofChars ("query:".toList ++ key.toList)

/-- What a schedule interleaves: requests, queries that are cached, and deletions of
    what matches a pattern. -/
inductive Call where
  | intercept (request : Request) (outcome : Except String (Option Json.Value))
      (readable writable : Bool)
  | setQuery (key : String) (value : Option Json.Value) (ttl : Int)
  | deleteByPattern (pattern : String)
  | pass (milliseconds : Nat)

/-- What a call does, access by access. -/
def Call.program (routing : Routing) : Call → Prog World String Unit
  | .intercept request outcome readable writable =>
    Responses.intercept routing request outcome readable writable
  | .setQuery key value ttl =>
    step () fun w => ((), { w with redis := CacheService.set (queryKey key) value { ttl } w.redis })
  | .deleteByPattern pattern =>
    step () fun w => ((), { w with
      redis := w.redis.del (w.redis.keys (Glob.stringmatch (bytes (ofChars pattern.toList)))) })
  | .pass milliseconds => step () fun w => ((), { w with redis := w.redis.pass milliseconds })

/-! ### Keys -/

theorem whole_jsonText (value : Option Json.Value) : Whole (jsonText value) := by
  cases value with
  | none =>
      exact whole_of_colonless (balanced_of_plain (forall_mem_of_all (by decide))) (by decide)
  | some value => exact whole_text value

theorem jsonText_inj {value value' : Option Json.Value} (h : jsonText value = jsonText value') :
    value = value' := by
  -- No value is written with the first letter of undefined.
  have hne : ∀ value : Json.Value, value.text ≠ "undefined".toList := by
    intro value heq
    obtain ⟨c, rest, htext, hkind⟩ := text_head value
    rw [htext] at heq
    obtain rfl : c = 'u' := (List.cons.inj heq).1
    have hnone : kindOf 'u' = none := by decide
    rw [hnone] at hkind
    cases hkind
  cases value with
  | none =>
      cases value' with
      | none => rfl
      | some value' => exact absurd h.symm (hne value')
  | some value =>
      cases value' with
      | none => exact absurd h (hne value)
      | some value' => rw [text_inj h]

/-- Unless a key is given, the key of a response determines the request. -/
theorem cacheKey_inj {options options' : CacheOptions} (hkey : options.key = "")
    (hkey' : options'.key = "") {request request' : Request}
    (h : cacheKey options request = cacheKey options' request') : request = request' := by
  rw [cacheKey, cacheKey, if_neg (not_not_intro hkey), if_neg (not_not_intro hkey')] at h
  obtain ⟨hmethod, hrest⟩ := split_inj request.colonless request'.colonless h
  -- From here the key is taken apart from its end.
  have hlast : request.url.toList ++ ':' :: jsonText request.query ++
      ':' :: jsonText request.body = request'.url.toList ++ ':' :: jsonText request'.query ++
        ':' :: jsonText request'.body := by
    rw [List.append_assoc, List.append_assoc]
    exact hrest
  obtain ⟨hfirst, hbody⟩ := (whole_jsonText request.body).split_inj (whole_jsonText request'.body)
    hlast
  obtain ⟨hurl, hquery⟩ := (whole_jsonText request.query).split_inj (whole_jsonText request'.query)
    hfirst
  rcases request with ⟨method, url, query, body, hcolonless⟩
  rcases request' with ⟨method', url', query', body', hcolonless'⟩
  obtain rfl := String.toList_inj.mp hmethod
  obtain rfl := String.toList_inj.mp hurl
  obtain rfl := jsonText_inj hquery
  obtain rfl := jsonText_inj hbody
  rfl

section

variable {routing : Routing} {request request' : Request} {w s t : World}

theorem Routing.of_mem (routing : Routing) (request : Request) :
    routing.of request ∈ decorations :=
  routing.among ..

theorem of_key (routing : Routing) (request : Request) : (routing.of request).key = "" := by
  have hall : ∀ options ∈ decorations, options.key = "" := by decide
  exact hall _ (routing.of_mem request)

/-- The key of a response determines the request. -/
theorem cacheKey_injective (routing : Routing) :
    Function.Injective fun request => cacheKey (routing.of request) request :=
  fun _ _ h => cacheKey_inj (of_key ..) (of_key ..) h

/-! ### Places -/

/-- Where the response of a request is stored. -/
def place (routing : Routing) (request : Request) : List UInt8 :=
  Namespaces.place ((routing.of request).service.keyPrefix,
    ofChars (cacheKey (routing.of request) request))

/-- Responses are stored under one of these. -/
theorem withPrefix_mem (routing : Routing) (request : Request) : (routing.of request).withPrefix ∈
    ["response", "tokens", "accounts", "blockchain"] := by
  have hall : ∀ options ∈ decorations, options.withPrefix ∈
      ["response", "tokens", "accounts", "blockchain"] := by decide
  exact hall _ (routing.of_mem request)

/-- The characters of a place: the prefix, a colon and the key. -/
theorem chars_place (routing : Routing) (request : Request) :
    chars (CacheService.getKey (ofChars (cacheKey (routing.of request) request))
      (routing.of request).service.keyPrefix) =
        (routing.of request).withPrefix.toList ++ ':' :: cacheKey (routing.of request) request := by
  have hgiven : ofChars (routing.of request).withPrefix.toList ≠ [] := by
    have hall : ∀ text ∈ ["response", "tokens", "accounts", "blockchain"],
        ofChars text.toList ≠ [] := by decide
    exact hall _ (withPrefix_mem routing request)
  rw [CacheService.getKey, CacheOptions.service, if_pos hgiven, Namespaces.chars_colon,
    chars_ofChars, chars_ofChars]

theorem colon_not_mem (routing : Routing) (request : Request) :
    ':' ∉ (routing.of request).withPrefix.toList := by
  have hall : ∀ text ∈ ["response", "tokens", "accounts", "blockchain"], ':' ∉ text.toList := by
    decide
  exact hall _ (withPrefix_mem routing request)

/-- Different requests have different places. -/
theorem place_inj (h : place routing request = place routing request') : request = request' := by
  rw [place, place, Namespaces.place, Namespaces.place, bytes_inj] at h
  simp only [chars_place] at h
  exact cacheKey_injective routing (split_inj (colon_not_mem _ _) (colon_not_mem _ _) h).2

/-- Query results have other places. -/
theorem place_ne_query (routing : Routing) (request : Request) (key : String) :
    place routing request ≠ Namespaces.place ([], queryKey key) := by
  rw [place, Namespaces.place, Namespaces.place, Ne, bytes_inj, chars_place, CacheService.getKey,
    if_neg (not_not_intro rfl), queryKey, chars_ofChars]
  intro h
  -- The prefix of a response is none of query results.
  have hcolon : (':' : Char) ∉ "query".toList := by decide
  have hquery : "query:".toList = "query".toList ++ [':'] := by decide
  rw [hquery, List.append_assoc, List.singleton_append] at h
  have hsame := String.toList_inj.mp (split_inj (colon_not_mem _ _) hcolon h).1
  have hmem := withPrefix_mem routing request
  rw [hsame] at hmem
  exact absurd hmem (by decide)

/-! ### Sound responses -/

/-- A response is what the handler has answered the same request: just now, or it
    was stored after that and less than its time to live ago. -/
inductive Sound (routing : Routing) (w : World) (served : Served) : Prop where
  | miss (hmiss : served.hit = false)
      (handled : ⟨served.request, served.value, served.time⟩ ∈ w.handled)
  | hit (hhit : served.hit = true) (value : Json.Value) (hvalue : served.value = some value)
      (htruthy : truthy value = true) (at_ since : Nat)
      (handled : ⟨served.request, some value, at_⟩ ∈ w.handled) (hordered : at_ ≤ since)
      (stored : ⟨served.request, some value, since⟩ ∈ w.stored) (hlater : since ≤ served.time)
      (hfresh : served.time < since + (routing.of served.request).ttl * 1000)

/-- Every entry was stored, what was stored was answered before, and what was served
    is sound. -/
structure Backed (routing : Routing) (w : World) : Prop where
  entries : ∀ request entry, (routing.of request).ttl ≠ 0 →
    w.redis.entries (place routing request) = some entry →
      ∃ since, ⟨request, entry.value, since⟩ ∈ w.stored ∧ since ≤ w.redis.now ∧
        entry.expiresAt = some (since + (routing.of request).ttl * 1000)
  stored : ∀ stored ∈ w.stored, ∀ value, stored.value = some value →
    ∃ at_ ≤ stored.time, ⟨stored.request, some value, at_⟩ ∈ w.handled
  served : ∀ served ∈ w.served, Sound routing w served

/-- What has happened stays, and time goes on. -/
structure Later (s t : World) : Prop where
  handled : s.handled ⊆ t.handled
  stored : s.stored ⊆ t.stored
  now : s.redis.now ≤ t.redis.now

theorem Later.refl (s : World) : Later s s :=
  ⟨List.Subset.refl _, List.Subset.refl _, Nat.le_refl _⟩

theorem Later.trans {u : World} (h : Later s t) (h' : Later t u) : Later s u :=
  ⟨List.Subset.trans h.handled h'.handled, List.Subset.trans h.stored h'.stored,
    Nat.le_trans h.now h'.now⟩

/-- Another store of the cache, not earlier. -/
theorem later_redis {redis : Redis Json.Value} (h : s.redis.now ≤ redis.now) :
    Later s { s with redis } :=
  ⟨List.Subset.refl _, List.Subset.refl _, h⟩

/-- Every response that has been served is sound. -/
def World.Faithful (w : World) (routing : Routing) : Prop :=
  ∀ served ∈ w.served, Sound routing w served

theorem Sound.later {served : Served} (h : Sound routing s served) (hlater : Later s t) :
    Sound routing t served := by
  cases h with
  | miss hmiss handled => exact .miss hmiss (hlater.handled handled)
  | hit hhit value hvalue htruthy at_ since handled hordered stored hsince hfresh =>
      exact .hit hhit value hvalue htruthy at_ since (hlater.handled handled) hordered
        (hlater.stored stored) hsince hfresh

/-- Only the entries, the time and what was newly stored or served are in question. -/
theorem backed_of_later (h : Backed routing s) (hlater : Later s t)
    (hentries : ∀ request entry, (routing.of request).ttl ≠ 0 →
      t.redis.entries (place routing request) = some entry →
        s.redis.entries (place routing request) = some entry ∨
          ⟨request, entry.value, t.redis.now⟩ ∈ t.stored ∧
            entry.expiresAt = some (t.redis.now + (routing.of request).ttl * 1000))
    (hstored : ∀ stored ∈ t.stored, stored ∈ s.stored ∨ ∀ value, stored.value = some value →
      ∃ at_ ≤ stored.time, ⟨stored.request, some value, at_⟩ ∈ t.handled)
    (hserved : ∀ served ∈ t.served, served ∈ s.served ∨ Sound routing t served) :
    Backed routing t where
  entries request entry httl hentry := by
    -- An entry is an old one that is backed still, or stored in this step.
    rcases hentries request entry httl hentry with hold | ⟨hnew, hexpires⟩
    · obtain ⟨since, hmem, hsince, hexpires⟩ := h.entries request entry httl hold
      exact ⟨since, hlater.stored hmem, hsince.trans hlater.now, hexpires⟩
    · exact ⟨_, hnew, Nat.le_refl _, hexpires⟩
  stored stored hmem value hvalue := by
    rcases hstored stored hmem with hold | hnew
    · obtain ⟨at_, hle, hhandled⟩ := h.stored stored hold value hvalue
      exact ⟨at_, hle, hlater.handled hhandled⟩
    · exact hnew value hvalue
  served served hmem := by
    rcases hserved served hmem with hold | hnew
    · exact (h.served served hold).later hlater
    · exact hnew

theorem backed_lookUp (h : Backed routing s) (httl : (routing.of request).ttl ≠ 0)
    (readable : Bool) : Backed routing (s.lookUp routing request readable).2 := by
  unfold World.lookUp
  cases hfound : (if readable then s.cachedResponse routing request else none).filter truthy with
  | none => exact h
  | some value =>
      refine backed_of_later h ⟨List.Subset.refl _, List.Subset.refl _, Nat.le_refl _⟩
        (fun _ _ _ hentry => Or.inl hentry) (fun _ hmem => Or.inl hmem) fun served hmem => ?_
      rcases List.mem_append.mp hmem with hmem | hmem
      · exact Or.inl hmem
      · -- What was found is what was stored, and it has not expired.
        obtain rfl := List.mem_singleton.mp hmem
        obtain ⟨hcached, htruthy⟩ := Option.filter_eq_some_iff.mp hfound
        have hget : s.cachedResponse routing request = some value := by
          cases readable with
          | true => exact hcached
          | false => cases hcached
        obtain ⟨entry, hentry, hvalue⟩ := Option.bind_eq_some_iff.mp hget
        obtain ⟨hplace, hexpiry⟩ := Option.filter_eq_some_iff.mp hentry
        obtain ⟨since, hstored, hsince, hexpires⟩ := h.entries request entry httl hplace
        rw [hexpires] at hexpiry
        rw [hvalue] at hstored
        obtain ⟨at_, hordered, hhandled⟩ := h.stored _ hstored value rfl
        exact Or.inr (.hit rfl value rfl htruthy at_ since hhandled hordered hstored hsince
          (of_decide_eq_true hexpiry))

theorem backed_answer (h : Backed routing s) (request : Request) (answer : Option Json.Value) :
    Backed routing (s.answer request answer) := by
  refine backed_of_later h
    ⟨List.subset_append_left _ _, List.Subset.refl _, Nat.le_refl _⟩
    (fun _ _ _ hentry => Or.inl hentry) (fun _ hmem => Or.inl hmem) fun served hmem => ?_
  rcases List.mem_append.mp hmem with hmem | hmem
  · exact Or.inl hmem
  · obtain rfl := List.mem_singleton.mp hmem
    exact Or.inr (.miss rfl (List.mem_append_right _ (List.mem_singleton_self _)))

/-- What is written under a place that no response has. -/
theorem backed_put (h : Backed routing s) {other : List UInt8}
    (hother : ∀ request, place routing request ≠ other) (ttl : Int) (value : Option Json.Value) :
    Backed routing { s with redis := s.redis.put other ttl value } := by
  refine backed_of_later h (later_redis (Expiring.put_now ..).symm.le)
    (fun request entry _ hentry => Or.inl ?_) (fun _ hmem => Or.inl hmem) fun _ hmem => Or.inl hmem
  rwa [Expiring.put_entries_of_ne (hother request)] at hentry

theorem later_store (s : World) (routing : Routing) (request : Request) (writable : Bool)
    (answer : Option Json.Value) : Later s (s.store routing request writable answer) := by
  cases writable with
  | false => exact Later.refl s
  | true => exact ⟨List.Subset.refl _, List.subset_append_left _ _, (Expiring.put_now ..).symm.le⟩

theorem serialized_some {answer : Option Json.Value} {value : Json.Value}
    (h : serialized answer = some value) : answer = some value := by
  unfold serialized at h
  split at h
  · cases h
  · exact h

/-- A handler's answer is stored after it was given. -/
theorem backed_store (h : Backed routing s) (httl : (routing.of request).ttl ≠ 0)
    {answer : Option Json.Value} {at_ : Nat} (hanswer : ⟨request, answer, at_⟩ ∈ s.handled)
    (hat : at_ ≤ s.redis.now) (writable : Bool) :
    Backed routing (s.store routing request writable answer) := by
  have hlater := later_store s routing request writable answer
  cases writable with
  | false => exact h
  | true =>
      refine backed_of_later h hlater (fun other entry hother hentry => ?_) (fun stored hmem => ?_)
        fun _ hmem => Or.inl hmem
      · have hput : (s.store routing request true answer).redis =
            s.redis.put (place routing request) (routing.of request).ttl (serialized answer) := rfl
        rw [hput] at hentry
        by_cases hplace : place routing other = place routing request
        · -- This is the response that was stored now.
          obtain rfl := place_inj hplace
          have hpositive : (0 : Int) < (routing.of other).ttl := by omega
          have hne : ((routing.of other).ttl : Int) ≠ 0 := by omega
          rw [Expiring.put, if_pos hne, Expiring.setex, if_pos hpositive] at hentry
          simp only [Function.update_self, Option.some.injEq] at hentry
          subst hentry
          refine Or.inr ⟨List.mem_append_right _ ?_, ?_⟩
          · have hnow := Expiring.put_now s.redis (place routing other) (routing.of other).ttl
              (serialized answer)
            rw [hput, hnow]
            exact List.mem_singleton_self _
          · rw [hput, Expiring.put_now]
            rfl
        · rw [Expiring.put_entries_of_ne hplace] at hentry
          exact Or.inl hentry
      · rcases List.mem_append.mp hmem with hmem | hmem
        · exact Or.inl hmem
        · obtain rfl := List.mem_singleton.mp hmem
          refine Or.inr fun value hvalue => ⟨at_, hat, ?_⟩
          rw [serialized_some hvalue] at hanswer
          exact hanswer

theorem backed_del (h : Backed routing s) (keys : List UInt8 → Bool) :
    Backed routing { s with redis := s.redis.del keys } := by
  refine backed_of_later h (later_redis (Nat.le_refl _)) (fun request entry _ hentry => Or.inl ?_)
    (fun _ hmem => Or.inl hmem) fun _ hmem => Or.inl hmem
  -- Deleting leaves no entry that was not there.
  have hentries : (s.redis.del keys).entries (place routing request) =
      if keys (place routing request) then none else s.redis.entries (place routing request) := rfl
  rw [hentries] at hentry
  split at hentry
  · cases hentry
  · exact hentry

theorem backed_pass (h : Backed routing s) (milliseconds : Nat) :
    Backed routing { s with redis := s.redis.pass milliseconds } :=
  backed_of_later h (later_redis (Nat.le_add_right ..))
    (fun _ _ _ hentry => Or.inl hentry) (fun _ hmem => Or.inl hmem) fun _ hmem => Or.inl hmem

/-! ### Schedules -/

/-- What an access of a call does. -/
def Call.writes (routing : Routing) (call : Call) (seen : List (World × World)) (s t : World) :
    Prop :=
  match call with
  | .intercept request _ readable writable =>
    -- The lookup, the answer, and the store of what was answered before.
    ((routing.of request).ttl ≠ 0 ∧ t = (s.lookUp routing request readable).2) ∨
    (∃ answer, t = s.answer request answer) ∨
    ∃ answer, (routing.of request).ttl ≠ 0 ∧ t = s.store routing request writable answer ∧
      ∃ p ∈ seen, p.2 = p.1.answer request answer
  | .setQuery key value ttl =>
    t = { s with redis := CacheService.set (queryKey key) value { ttl } s.redis }
  | .deleteByPattern pattern => t = { s with
      redis := s.redis.del (s.redis.keys (Glob.stringmatch (bytes (ofChars pattern.toList)))) }
  | .pass milliseconds => t = { s with redis := s.redis.pass milliseconds }

theorem call_follows (routing : Routing) (call : Call) :
    (call.program routing).Follows (watching (call.writes routing)) (fun _ _ => True) [] := by
  cases call with
  | setQuery key value ttl => exact fun s _ => ⟨_, ⟨rfl, rfl⟩, trivial⟩
  | deleteByPattern pattern => exact fun s _ => ⟨_, ⟨rfl, rfl⟩, trivial⟩
  | pass milliseconds => exact fun s _ => ⟨_, ⟨rfl, rfl⟩, trivial⟩
  | intercept request outcome readable writable =>
      rw [Call.program, Responses.intercept]
      split
      · refine follows_bind (follows_compute ?_)
        cases outcome with
        | error message => exact trivial
        | ok answer => exact fun s _ => ⟨_, ⟨rfl, Or.inr (Or.inl ⟨answer, rfl⟩)⟩, trivial⟩
      · next httl =>
          intro s _
          refine ⟨_, ⟨rfl, Or.inl ⟨httl, rfl⟩⟩, ?_⟩
          change ((if (s.lookUp routing request readable).1 then _ else _ :
            Prog World String Unit)).Follows
            _ _ _
          split
          · exact trivial
          · refine follows_bind (follows_compute ?_)
            cases outcome with
            | error message => exact trivial
            | ok answer =>
                -- The answer is in the history when it is stored.
                exact fun s _ => ⟨_, ⟨rfl, Or.inr (Or.inl ⟨answer, rfl⟩)⟩, fun t _ => ⟨_, ⟨rfl,
                  Or.inr (Or.inr ⟨answer, httl, rfl, _, List.mem_append_right _
                    (List.mem_singleton_self _), rfl⟩)⟩, trivial⟩⟩

theorem call_law (routing : Routing) :
    HistoryLaw (fun call seen s t => Call.writes routing call seen s t) (fun _ _ _ _ => True) Later
      (Backed routing) where
  refl := Later.refl
  trans _ _ _ := Later.trans
  step call seen s t hs hpast _ hwrites _ := by
    cases call with
    | setQuery key value ttl =>
        obtain rfl := hwrites
        exact ⟨later_redis (Expiring.put_now ..).symm.le,
          backed_put hs (fun request => place_ne_query routing request key) ttl value⟩
    | deleteByPattern pattern =>
        obtain rfl := hwrites
        exact ⟨later_redis (Nat.le_refl _), backed_del hs _⟩
    | pass milliseconds =>
        obtain rfl := hwrites
        exact ⟨⟨List.Subset.refl _, List.Subset.refl _, Nat.le_add_right ..⟩,
          backed_pass hs milliseconds⟩
    | intercept request outcome readable writable =>
        rcases hwrites with ⟨httl, rfl⟩ | ⟨answer, rfl⟩ | ⟨answer, httl, rfl, p, hp, hanswer⟩
        · refine ⟨?_, backed_lookUp hs httl readable⟩
          unfold World.lookUp
          split <;> exact ⟨List.Subset.refl _, List.Subset.refl _, Nat.le_refl _⟩
        · exact ⟨⟨List.subset_append_left _ _, List.Subset.refl _, Nat.le_refl _⟩,
            backed_answer hs request answer⟩
        · -- The handler has answered in an earlier access of this request.
          have hsince := hpast.past p hp
          rw [hanswer] at hsince
          have hmem : (⟨request, answer, p.1.redis.now⟩ : Handled) ∈ s.handled :=
            hsince.handled (List.mem_append_right _ (List.mem_singleton_self _))
          exact ⟨later_store .., backed_store hs httl hmem hsince.now writable⟩

/-- In every schedule every response is what the handler has answered the same
    request, now or, if it is served from the cache, less than the time to live
    after it was stored. -/
theorem responses_sound (routing : Routing) (moves : List (Move Call)) :
    (after (record (Call.program routing)) moves ⟨{}, []⟩).store.Faithful routing := by
  have hempty : Backed routing ({} : World) :=
    ⟨fun _ _ _ h => (by cases h), fun _ h => absurd h List.not_mem_nil,
      fun _ h => absurd h List.not_mem_nil⟩
  exact (recalled_after (call_law routing) (call_follows routing) (recalled_start hempty)
    (along_heeds (fun _ _ _ _ => trivial) moves _)).store.served

/-- Every route has the decorator of balances. -/
def balances : Routing where
  options _ _ := { ttl := 30, keyPrefix := "blockchain" }
  among _ _ := by decide

/-- The request in the witness. -/
def balanceRequest : Request :=
  ⟨"GET", "/accounts/a/balance", some (.object []), none, by decide⟩

/-- The second request is served what the first was answered, the third comes half a
    minute later. -/
example : (after (record (Call.program balances))
    [.start (.intercept balanceRequest (.ok (some (.bool true))) true true), .access 0, .access 0,
      .access 0, .start (.pass 29999), .access 1,
      .start (.intercept balanceRequest (.error "unreachable") true true), .access 2,
      .start (.pass 1), .access 3,
      .start (.intercept balanceRequest (.ok none) true true), .access 4, .access 4]
    ⟨{}, []⟩).store.served.map (fun served => (served.hit, served.time)) =
      [(false, 0), (true, 29999), (false, 30000)] := by
  decide +kernel

end

end Responses

end Caching

end SvmCourse
