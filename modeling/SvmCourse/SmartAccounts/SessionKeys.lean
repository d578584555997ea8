import SvmCourse.SmartAccounts.Limits

/-!
# Session Keys

A validation has found permissions in the cache, or a row that is active and
has not expired, and has compared the request with the permissions. A row that
is found is one that allows the request at the instant it is found. A cached
entry may be of a row that has been revoked or has expired since, or may have
been written back by a validation that read the row before.

Limits of zero, amounts of zero and empty texts are passed over by the
comparison. And a revocation is about one row of an address, while the others
stay active.

## Main definitions

* `Allows`: A request is within the permissions.
* `Overlooks`: What the comparison passes over although it is not.
* `Careful`: When an access of a validation finds what can be relied on.
* `Legit`: What is promised of accepted validations.
* `Rejects`: What is promised of an address once it is revoked.

## Theorems

* `allows_of_checkPermissions`: What is not passed over is allowed.
* `validateSessionKey_follows`, `revokeSessionKey_follows`: What the calls have
  seen when they succeed.
* `secure_along`: Schedules of careful accesses keep both promises.
-/

namespace SvmCourse

namespace SmartAccounts

open Core Core.Prog Core.Machine Core.Sched

/-! ### Permissions -/

/-- Whatever the request gives is within the permissions. -/
structure Allows (permissions : Permissions) (request : SessionRequest) : Prop where
  amount : ∀ maxAmount ∈ permissions.maxAmount, ∀ amount ∈ request.amount, amount ≤ maxAmount
  program : ∀ allowedPrograms ∈ permissions.allowedPrograms, ∀ programId ∈ request.programId,
    programId ∈ allowedPrograms
  operation : ∀ allowedOperations ∈ permissions.allowedOperations,
    ∀ operation ∈ request.operation, operation ∈ allowedOperations

/-- An amount is above the limit and one of them is zero, or an empty text is not
    on a list. -/
def Overlooks (permissions : Permissions) (request : SessionRequest) : Prop :=
  (∃ maxAmount ∈ permissions.maxAmount, ∃ amount ∈ request.amount,
    maxAmount < amount ∧ (maxAmount = 0 ∨ amount = 0)) ∨
  (∃ allowedPrograms ∈ permissions.allowedPrograms, request.programId = some "" ∧
    "" ∉ allowedPrograms) ∨
  (∃ allowedOperations ∈ permissions.allowedOperations, request.operation = some "" ∧
    "" ∉ allowedOperations)

instance (permissions : Permissions) (request : SessionRequest) :
    Decidable (Overlooks permissions request) := by
  unfold Overlooks
  infer_instance

theorem given_some {text : String} (h : text ≠ "") : given (some text) = some text := by
  rw [given, Option.filter_some_pos (by simpa using h)]

/-- A text that was not passed over is on the list, and one that was is empty. -/
theorem mem_of_given {allowed : Option (List String)} {text : Option String}
    (h : ∀ list t, allowed = some list → given text = some t → list.contains t = true)
    (hempty : ∀ list ∈ allowed, text = some "" → "" ∈ list) :
    ∀ list ∈ allowed, ∀ t ∈ text, t ∈ list := by
  intro list hlist t ht
  by_cases hnone : t = ""
  · subst hnone
    exact hempty list hlist ht
  · obtain rfl : text = some t := ht
    exact List.contains_iff_mem.mp (h list t hlist (given_some hnone))

/-- An amount that was not passed over is within the limit. -/
theorem le_of_given {maxAmount amount : Option ℚ}
    (h : ∀ limit n, maxAmount.filter (· ≠ 0) = some limit → amount.filter (· ≠ 0) = some n →
      n ≤ limit)
    (hzero : ∀ limit ∈ maxAmount, ∀ n ∈ amount, limit < n → ¬(limit = 0 ∨ n = 0)) :
    ∀ limit ∈ maxAmount, ∀ n ∈ amount, n ≤ limit := by
  intro limit hlimit n hn
  by_contra hlt
  obtain ⟨hlimitZero, hnZero⟩ := not_or.mp (hzero limit hlimit n hn (not_le.mp hlt))
  refine hlt (h limit n ?_ ?_)
  · rw [Option.mem_def.mp hlimit, Option.filter_some_pos (by simpa using hlimitZero)]
  · rw [Option.mem_def.mp hn, Option.filter_some_pos (by simpa using hnZero)]

theorem checkOperations_none {permissions : Permissions} {request : SessionRequest}
    (h : checkPermissions.checkOperations permissions request = none) :
    ∀ list t, permissions.allowedOperations = some list → given request.operation = some t →
      list.contains t = true := by
  intro list t hlist ht
  rw [checkPermissions.checkOperations, hlist, ht] at h
  simpa using h

theorem checkPrograms_none {permissions : Permissions} {request : SessionRequest}
    (h : checkPermissions.checkPrograms permissions request = none) :
    (∀ list t, permissions.allowedPrograms = some list → given request.programId = some t →
      list.contains t = true) ∧ checkPermissions.checkOperations permissions request = none := by
  rw [checkPermissions.checkPrograms] at h
  split at h
  · next list t hlist ht =>
      split at h
      · next hmem =>
          refine ⟨fun other u hother hu => ?_, h⟩
          obtain rfl := Option.some_inj.mp (hlist.symm.trans hother)
          obtain rfl := Option.some_inj.mp (ht.symm.trans hu)
          exact hmem
      · exact nomatch h
  · next hnone => exact ⟨fun list t hlist ht => absurd ht (hnone list t hlist), h⟩

theorem checkPermissions_none {permissions : Permissions} {request : SessionRequest}
    (h : checkPermissions permissions request = none) :
    (∀ limit n, permissions.maxAmount.filter (· ≠ 0) = some limit →
      request.amount.filter (· ≠ 0) = some n → n ≤ limit) ∧
      checkPermissions.checkPrograms permissions request = none := by
  rw [checkPermissions] at h
  split at h
  · next limit n hlimit hn =>
      split at h
      · exact nomatch h
      · next hle =>
          refine ⟨fun other m hother hm => ?_, h⟩
          obtain rfl := Option.some_inj.mp (hlimit.symm.trans hother)
          obtain rfl := Option.some_inj.mp (hn.symm.trans hm)
          exact not_lt.mp hle
  · next hpassed => exact ⟨fun limit n hlimit hn => absurd hn (hpassed limit n hlimit), h⟩

/-- What the comparison accepts and does not pass over is allowed. -/
theorem allows_of_checkPermissions {permissions : Permissions} {request : SessionRequest}
    (h : checkPermissions permissions request = none) (hnot : ¬ Overlooks permissions request) :
    Allows permissions request := by
  simp only [Overlooks, not_or, not_exists, not_and, not_not] at hnot
  obtain ⟨hamount, hprogram, hoperation⟩ := hnot
  obtain ⟨hamounts, hprograms⟩ := checkPermissions_none h
  obtain ⟨hlisted, hoperations⟩ := checkPrograms_none hprograms
  exact {
    amount := le_of_given hamounts fun limit hlimit n hn hlt =>
      not_or.mpr (hamount limit hlimit n hn hlt)
    program := mem_of_given hlisted hprogram
    operation := mem_of_given (checkOperations_none hoperations) hoperation }

/-! ### Rows -/

section Rows

variable {s : World} {key : String} {row : SessionKey} {id : Nat}

theorem mem_sessionKeysOf :
    (row, id) ∈ s.sessionKeysOf key ↔ s.sessionKeys[id]? = some row ∧
      row.sessionKeyAddress = key := by
  rw [World.sessionKeysOf, List.mem_filter, List.mk_mem_zipIdx_iff_getElem?, decide_eq_true_eq]

/-- The row a lookup finds. -/
def World.sessionKeyAt (world : World) (sessionKeyAddress : String) (choice : Nat) :
    Option (SessionKey × Nat) :=
  (world.sessionKeysOf sessionKeyAddress)[choice % (world.sessionKeysOf sessionKeyAddress).length]?

theorem sessionKey_of_at {choice : Nat} (h : s.sessionKeyAt key choice = some (row, id)) :
    s.sessionKeys[id]? = some row ∧ row.sessionKeyAddress = key :=
  mem_sessionKeysOf.mp (List.mem_of_getElem? h)

end Rows

/-! ### The promises -/

/-- An accepted validation has had, at some instant while it was handled, a row
    of its address that was active, had not expired, and allows the request. -/
def Legit (r : Recorded World String Call) : Prop :=
  ∀ w ∈ r.calls, ∀ key request choice, w.call = .validateSessionKey key request choice →
    w.rest.outcome = some (.ok ()) → ∃ u ∈ w.lived, ∃ row ∈ u.sessionKeys,
      row.sessionKeyAddress = key ∧ row.status = .ACTIVE ∧ u.now ≤ row.expiresAt ∧
        Allows row.permissions request

/-- A revocation of the address has returned. -/
def Revoked (key : String) (r : Recorded World String Call) : Prop :=
  ∃ w ∈ r.calls, ∃ choice, w.call = .revokeSessionKey key choice ∧
    w.rest.outcome = some (.ok ())

/-- If the address was revoked by then and has had no row since, no validation
    that was started since is accepted. -/
def Rejects (key : String) (r r' : Recorded World String Call) : Prop :=
  Revoked key r → (r'.store.sessionKeysOf key).length = (r.store.sessionKeysOf key).length →
    ∀ w ∈ r'.calls.drop r.calls.length, ∀ request choice,
      w.call = .validateSessionKey key request choice → w.rest.outcome ≠ some (.ok ())

/-- The permissions the access of a validation obtains: from the cache at first,
    then from the row it finds, if that is active and has not expired. -/
def obtained (key : String) (choice : Nat) (seen : List (World × World)) (s : World) :
    Option Permissions :=
  match seen with
  | [] => s.permissions key
  | [_] => ((s.sessionKeyAt key choice).filter fun row =>
      row.1.status = .ACTIVE ∧ s.now ≤ row.1.expiresAt).map fun row => row.1.permissions
  | _ => none

/-- Permissions are found in the cache while a row that has them is active and
    has not expired, and whatever permissions are obtained, the comparison
    overlooks nothing of them. -/
def Careful (call : Call) (seen : List (World × World)) (s _ : World) : Prop :=
  match call with
  | .validateSessionKey key request choice =>
    (seen = [] → ∀ permissions ∈ s.permissions key, ∃ row ∈ s.sessionKeys,
      row.sessionKeyAddress = key ∧ row.status = .ACTIVE ∧ s.now ≤ row.expiresAt ∧
        row.permissions = permissions) ∧
    ∀ permissions ∈ obtained key choice seen s, ¬ Overlooks permissions request
  | _ => True

instance (call : Call) (seen : List (World × World)) (s t : World) :
    Decidable (Careful call seen s t) :=
  match call with
  | .validateSessionKey key request choice =>
    inferInstanceAs (Decidable ((seen = [] → ∀ permissions ∈ s.permissions key,
      ∃ row ∈ s.sessionKeys, row.sessionKeyAddress = key ∧ row.status = .ACTIVE ∧
        s.now ≤ row.expiresAt ∧ row.permissions = permissions) ∧
      ∀ permissions ∈ obtained key choice seen s, ¬ Overlooks permissions request))
  | .createSmartAccount _ _ | .handleAuthorizationRequest _ | .createSessionKey _ _ _
  | .revokeSessionKey _ _ | .changeStatus _ _ | .pass _ | .evictRules _ | .evictPermissions _ =>
    isTrue trivial

/-! ### What the calls have seen -/

/-- Nothing is required of an access but that it goes on in time. -/
def GoesOn (_ : Call) (_ : List (World × World)) (s t : World) : Prop := Later s t

/-- The permissions were in the cache. -/
def FromCache (key : String) (request : SessionRequest) (seen : List (World × World)) : Prop :=
  ∃ p permissions, seen = [p] ∧ p.1.permissions key = some permissions ∧
    checkPermissions permissions request = none

/-- A row was found active, and then the time was not past its end. -/
def FromRow (key : String) (request : SessionRequest) (choice : Nat)
    (seen : List (World × World)) : Prop :=
  ∃ first found start rest row, seen = first :: found :: start :: rest ∧
    found.1.sessionKeyAt key choice = some row ∧ row.1.status = .ACTIVE ∧
    start.1.now ≤ row.1.expiresAt ∧ checkPermissions row.1.permissions request = none

/-- A row was found, and then it was set to revoked. -/
def SetRevoked (key : String) (choice : Nat) (seen : List (World × World)) : Prop :=
  ∃ found set rest row, seen = found :: set :: rest ∧
    found.1.sessionKeyAt key choice = some row ∧ set.2 = set.1.setSessionKey row.2 .REVOKED

/-- What a call has seen when it succeeds. -/
def Witnessed (call : Call) (seen : List (World × World)) (r : Except String Unit) : Prop :=
  match call with
  | .validateSessionKey key request choice =>
    r = .ok () → FromCache key request seen ∨ FromRow key request choice seen
  | .revokeSessionKey key choice => r = .ok () → SetRevoked key choice seen
  | _ => True

section Follows

variable {call : Call} {key : String} {request : SessionRequest} {choice : Nat}
  {seen : List (World × World)} {α : Type}

theorem follows_look {find : World → α} {R : List (World × World) → Except String α → Prop}
    (h : ∀ s, R (seen ++ [(s, s)]) (.ok (find s))) :
    (query fun s => (find s, s)).Follows (watching (GoesOn call)) R seen :=
  follows_watching fun s => ⟨later_refl s, h s⟩

theorem answer_valid {reason : Option Reason} (h : (answer reason).valid = true) :
    reason = none := by
  cases reason with
  | none => rfl
  | some reason => exact nomatch h

/-- Setting permissions adds an access, whether it succeeds or not. -/
theorem follows_setPermissions {permissions : Permissions} {ttl : ℚ}
    {R : List (World × World) → Except String Unit → Prop}
    (h : ∀ p, ∀ r, R (seen ++ [p]) r) :
    (redisClient.setPermissions key permissions ttl).Follows (watching (GoesOn call)) R seen := by
  refine follows_bind (follows_watching fun s => ?_)
  dsimp only
  split
  · exact ⟨later_refl s, follows_compute (h _ _)⟩
  · split
    · exact ⟨later_refl s, follows_compute (h _ _)⟩
    · exact ⟨later_setPermissions .., follows_compute (h _ _)⟩

/-- A validation that accepts has found cached permissions or a row. -/
theorem validateSessionKey_follows :
    (validateSessionKey key request choice).Follows (watching (GoesOn call))
      (fun seen r => ∀ result, r = .ok result → result.valid = true →
        FromCache key request seen ∨ FromRow key request choice seen) [] := by
  refine follows_bind (follows_look fun s => ?_)
  dsimp only
  split
  · -- The permissions are in the cache, and are all that is looked at.
    next permissions hcached =>
      rintro result ⟨⟩ hvalid
      exact Or.inl ⟨(s, s), permissions, rfl, hcached, answer_valid hvalid⟩
  · refine follows_bind (follows_look fun t => ?_)
    dsimp only
    split
    · rintro result ⟨⟩ hvalid
      exact nomatch hvalid
    · -- Otherwise the row is read, and it must be active and not expired.
      next row id hrow =>
        split
        · rintro result ⟨⟩ hvalid
          exact nomatch hvalid
        · next hactive =>
            rw [ne_eq, not_not] at hactive
            refine follows_bind (follows_look fun u => ?_)
            dsimp only
            split
            · refine follows_bind (follows_watching fun v => ⟨later_setSessionKey v id (by decide),
                ?_⟩)
              rintro result ⟨⟩ hvalid
              exact nomatch hvalid
            · next hlasts =>
                refine follows_bind (follows_look fun v => ?_)
                refine follows_bind (follows_setPermissions fun p r => ?_)
                cases r with
                | error e => exact fun _ hno => nomatch hno
                | ok _ =>
                    -- Its permissions are cached, and then the answer is given by
                    -- them.
                    rintro result ⟨⟩ hvalid
                    exact Or.inr ⟨(s, s), (t, t), (u, u), [(v, v), p], (row, id), rfl, hrow,
                      hactive, Int.not_lt.mp hlasts, answer_valid hvalid⟩

/-- A revocation that succeeds has set a row to revoked. -/
theorem revokeSessionKey_follows :
    (revokeSessionKey key choice).Follows (watching (GoesOn call))
      (fun seen r => r = .ok () → SetRevoked key choice seen) [] := by
  refine follows_bind (follows_look fun s => ?_)
  refine follows_bind (follows_demand (fun row hrow => ?_) fun _ hno => nomatch hno)
  refine follows_bind (follows_watching fun t => ⟨later_setSessionKey t row.2 (by decide), ?_⟩)
  refine follows_watching fun u => ⟨later_setPermissions u _ _, fun _ => ?_⟩
  exact ⟨(s, s), (t, t.setSessionKey row.2 .REVOKED), [(u, u.setPermissions key none)], row, rfl,
    hrow, rfl⟩

theorem session_follows (call : Call) :
    call.program.Follows (watching (GoesOn call)) (Witnessed call) [] := by
  have hgoes : call.program.Follows (watching (GoesOn call)) (Answered call) [] :=
    follows_wider (fun _ _ _ h => h.1) (call_follows call)
  -- The other calls neither accept nor revoke a key.
  cases call with
  | validateSessionKey key request choice =>
      refine follows_bind (follows_mono validateSessionKey_follows fun seen r hr => ?_)
      cases r with
      | error e => exact fun hno => nomatch hno
      | ok result =>
          refine follows_require (fun hvalid _ => hr result rfl hvalid) fun _ hno => nomatch hno
  | revokeSessionKey key choice => exact revokeSessionKey_follows
  | createSmartAccount _ _ | handleAuthorizationRequest _ | createSessionKey _ _ _
  | changeStatus _ _ | pass _ | evictRules _ | evictPermissions _ =>
      exact follows_mono hgoes fun _ _ _ => trivial

theorem session_law : HistoryLaw GoesOn Careful Later fun _ => True where
  refl := later_refl
  trans _ _ _ := later_trans
  step _ _ _ _ _ _ _ hgoes _ := ⟨hgoes, trivial⟩

end Follows

/-! ### Accepted validations -/

section Promises

variable {key : String} {request : SessionRequest} {choice : Nat} {s : World}
  {seen : List (World × World)} {r r' : Recorded World String Call}

/-- Careful validations have found a row that allows the request. -/
theorem row_of_witnessed
    (hmet : Met Careful (.validateSessionKey key request choice) seen)
    (hpast : Past Later (fun _ => True) seen s)
    (h : FromCache key request seen ∨ FromRow key request choice seen) :
    ∃ p ∈ seen, ∃ row ∈ p.1.sessionKeys, row.sessionKeyAddress = key ∧ row.status = .ACTIVE ∧
      p.1.now ≤ row.expiresAt ∧ Allows row.permissions request := by
  rcases h with ⟨p, permissions, rfl, hcached, hcheck⟩ |
    ⟨first, found, start, rest, row, rfl, hrow, hactive, hlasts, hcheck⟩
  · obtain ⟨hrow, hnot⟩ := hmet [] p [] rfl
    obtain ⟨row, hmem, haddress, hactive, hlasts, rfl⟩ := hrow rfl permissions hcached
    exact ⟨p, List.mem_singleton_self p, row, hmem, haddress, hactive, hlasts,
      allows_of_checkPermissions hcheck (hnot _ hcached)⟩
  · obtain ⟨hget, haddress⟩ := sessionKey_of_at hrow
    -- The time was read after the row was found.
    have hfound : Later found.1 start.1 := by
      have horder := (List.pairwise_cons.mp (List.pairwise_cons.mp hpast.order).2).1
      exact later_trans (hpast.access found (by simp)) (horder start (by simp))
    have hlasts' := hfound.now.trans hlasts
    have hnot := (hmet [first] found (start :: rest) rfl).2 row.1.permissions (by
      rw [obtained, hrow, Option.filter_some_pos (by simp [hactive, hlasts'])]
      rfl)
    exact ⟨found, by simp, row.1, List.mem_of_getElem? hget, haddress, hactive, hlasts',
      allows_of_checkPermissions hcheck hnot⟩

theorem legit_of_recalled (h : Recalled GoesOn Careful Witnessed Later (fun _ => True) r) :
    Legit r := by
  intro w hw key request choice hcall hok
  have hw' := h.calls w hw
  have hwitnessed := follows_outcome hw'.follows hok
  have hmet := hw'.met
  rw [hcall] at hwitnessed hmet
  obtain ⟨p, hp, row, hrow⟩ := row_of_witnessed hmet hw'.past (hwitnessed rfl)
  exact ⟨p.1, hw'.found p hp, row, hrow⟩

/-- A revocation that has returned has left a row of the address that is not
    active. -/
theorem inactive_of_revoked (h : Recalled GoesOn Careful Witnessed Later (fun _ => True) r)
    (hrevoked : Revoked key r) : ∃ (id : Nat) (row : SessionKey),
      r.store.sessionKeys[id]? = some row ∧ row.sessionKeyAddress = key ∧
        row.status ≠ .ACTIVE := by
  obtain ⟨w, hw, choice, hcall, hok⟩ := hrevoked
  have hw' := h.calls w hw
  have hwitnessed := follows_outcome hw'.follows hok
  rw [hcall] at hwitnessed
  obtain ⟨found, set, rest, ⟨row, id⟩, hseen, hrow, hset⟩ := hwitnessed rfl
  have hpast := hw'.past
  rw [hseen] at hpast
  obtain ⟨hget, haddress⟩ := sessionKey_of_at hrow
  -- The row that was found is still there when it is set to revoked.
  have hset₁ : Later found.1 set.1 := by
    have horder := (List.pairwise_cons.mp hpast.order).1
    exact later_trans (hpast.access found (by simp)) (horder set (by simp))
  obtain ⟨row', hget', haddress', -⟩ := hset₁.sessionKeys id row hget
  have hrevoked : set.2.sessionKeys[id]? = some { row' with status := .REVOKED } := by
    rw [hset, World.setSessionKey, List.getElem?_modify, hget']
    simp
  -- And from then on it stays inactive.
  obtain ⟨row'', hget'', haddress'', hstatus⟩ :=
    (hpast.past set (by simp)).sessionKeys id _ hrevoked
  exact ⟨id, row'', hget'', haddress''.trans (haddress'.trans haddress),
    fun hactive => by cases hstatus hactive⟩

/-- The only row of the address was not active any more when the validation was
    started. -/
theorem rejects_of_single (h : Recalled GoesOn Careful Witnessed Later (fun _ => True) r)
    (h' : Recalled GoesOn Careful Witnessed Later (fun _ => True) r')
    (hlater : ∀ w ∈ r'.calls.drop r.calls.length, ∀ u ∈ w.lived, Later r.store u)
    (hsingle : Revoked key r → (r'.store.sessionKeysOf key).length ≤ 1) : Rejects key r r' := by
  intro hrevoked _ w hw request choice hcall hok
  obtain ⟨id, row, hget, haddress, hinactive⟩ := inactive_of_revoked h hrevoked
  have hmem := List.mem_of_mem_drop hw
  obtain ⟨u, hu, found, hfound, haddress', hactive, -⟩ :=
    legit_of_recalled h' w hmem key request choice hcall hok
  obtain ⟨id', hget'⟩ := List.mem_iff_getElem?.mp hfound
  have hend := (h'.calls w hmem).lived u hu
  -- Both rows are followed to the end, where there is one row of the address only.
  obtain ⟨row₁, hrow₁, haddress₁, hstatus₁⟩ := (hlater w hw u hu).sessionKeys id row hget
  obtain ⟨row₂, hrow₂, haddress₂, -⟩ := hend.sessionKeys id row₁ hrow₁
  obtain ⟨row₃, hrow₃, haddress₃, -⟩ := hend.sessionKeys id' found hget'
  have hone := mem_sessionKeysOf.mpr ⟨hrow₂, haddress₂.trans (haddress₁.trans haddress)⟩
  have htwo := mem_sessionKeysOf.mpr ⟨hrow₃, haddress₃.trans haddress'⟩
  have hsame : (row₂, id) = (row₃, id') := by
    obtain ⟨i, hi, hi'⟩ := List.mem_iff_getElem.mp hone
    obtain ⟨j, hj, hj'⟩ := List.mem_iff_getElem.mp htwo
    obtain rfl : i = j := by
      have hle := hsingle hrevoked
      omega
    exact hi'.symm.trans hj'
  obtain rfl := (Prod.mk.inj hsame).2
  obtain rfl := Option.some_inj.mp (hrow₁.symm.trans hget')
  exact hinactive (hstatus₁ hactive)

/-- Accepted validations are legitimate all along, and what is revoked halfway is
    rejected from then on. -/
def Secure (now : Int) (before later : List (Move Call)) : Prop :=
  Along (record Call.program) (fun _ _ _ r => Legit r) (before ++ later) ⟨{ now }, []⟩ ∧
    ∀ key, Rejects key (after (record Call.program) before ⟨{ now }, []⟩)
      (after (record Call.program) (before ++ later) ⟨{ now }, []⟩)

/-- In every schedule of careful accesses that leaves no second row at an address
    that was revoked. -/
theorem secure_along (now : Int) (before later : List (Move Call))
    (hcareful : Along (record Call.program) (fun m r _ _ => heeds Careful m r) (before ++ later)
      ⟨{ now }, []⟩)
    (hsingle : ∀ key, Revoked key (after (record Call.program) before ⟨{ now }, []⟩) →
      ((after (record Call.program) (before ++ later) ⟨{ now }, []⟩).store.sessionKeysOf
        key).length ≤ 1) : Secure now before later := by
  have hstart : Recalled GoesOn Careful Witnessed Later (fun _ => True)
      (⟨{ now }, []⟩ : Recorded World String Call) := recalled_start trivial
  refine ⟨along_recalled session_law session_follows (fun _ => legit_of_recalled) hstart hcareful,
    fun key => ?_⟩
  rw [along_append] at hcareful
  have hhalf := recalled_after session_law session_follows hstart hcareful.1
  have hend := recalled_after session_law session_follows hhalf hcareful.2
  have hlater := lived_later session_law session_follows hhalf hcareful.2
  rw [after_append]
  rw [after_append] at hsingle
  exact rejects_of_single hhalf hend hlater (hsingle key)

/-- An account and a session key with a limit. -/
def limitedKey (maxAmount : ℚ) : List (Move Call) :=
  [.start (.createSmartAccount "owner123" {}), .access 0, .access 0, .access 0] ++
  .start (.createSessionKey "smart-owner123-0000" "key" { maxAmount := some maxAmount }) ::
    List.replicate 4 (.access 1)

/-- A validation, with its accesses. -/
def validation (thread accesses : Nat) : List (Move Call) :=
  .start (.validateSessionKey "key" { amount := some 5 } 0) ::
    List.replicate accesses (.access thread)

/-- The key is validated from the cache and from its row, and is revoked. -/
def revokedAfterUse : List (Move Call) :=
  limitedKey 10 ++ validation 2 1 ++ [.start (.evictPermissions "key"), .access 3] ++
  validation 4 5 ++ .start (.revokeSessionKey "key" 0) :: List.replicate 3 (.access 5)

theorem secure_along_revokedAfterUse :
    Secure 1700000000000 revokedAfterUse (validation 6 2) := by
  refine secure_along 1700000000000 revokedAfterUse (validation 6 2) (by decide +kernel)
    fun key _ => ?_
  -- There is only one row in the table.
  refine (List.length_filter_le ..).trans ?_
  rw [List.length_zipIdx]
  decide +kernel

/-- What is above a limit of zero is accepted. -/
theorem not_secure_along : ¬ ∀ (now : Int) (before later : List (Move Call)),
    Secure now before later := by
  intro h
  have hlegit := after_of_along (h 1700000000000 (limitedKey 0 ++
    [.start (.validateSessionKey "key" { amount := some 5 } 0)]) [.access 2]).1
  revert hlegit
  generalize hafter : after (record Call.program) _ _ = r
  intro hlegit
  have hcall : r.calls[2]?.map Watched.call =
      some (.validateSessionKey "key" { amount := some 5 } 0) := by
    rw [← hafter]
    decide +kernel
  -- The limit of the key is zero in every store the call saw, and 5 is accepted.
  have haccepted : r.calls[2]?.all fun w => w.rest.outcome = some (.ok ()) ∧
      ∀ u ∈ w.lived, ∀ row ∈ u.sessionKeys, row.permissions.maxAmount = some 0 := by
    rw [← hafter]
    decide +kernel
  obtain ⟨w, hget, hcall⟩ := Option.map_eq_some_iff.mp hcall
  rw [hget, Option.all_some, decide_eq_true_eq] at haccepted
  obtain ⟨hok, hzero⟩ := haccepted
  obtain ⟨u, hu, row, hrow, -, -, -, hallows⟩ :=
    hlegit w (List.mem_of_getElem? hget) "key" _ 0 hcall hok
  exact absurd (hallows.amount 0 (hzero u hu row hrow) 5 rfl) (by decide)

end Promises

end SmartAccounts

end SvmCourse
