import Mathlib.Data.List.Count
import Mathlib.Data.List.Nodup
import SvmCourse.Core.Machine

/-!
# Monitoring Accounts

The events service listens to accounts and to programs. The connection calls every
listener it has, once per change, and each call stores an event. The service keeps the
listener of each account, and of each program, so that none is listened to twice and
every listener can be taken away again.

The connection takes a listener away when it is asked to. That it has told the network
is waited for, and other calls come in between. Two calls may wait for the same
listener. The first forgets the account. When it is listened to again before the second
is answered, the second forgets it once more, and the new listener is left with nobody
to know it: it can no longer be taken away, and whoever listens to the account again has
its changes stored twice.

What the connection answers comes with the event. It gives each listener a number of
its own. Zero counts as none when it is to be taken away, so that listener stays.

## Main definitions

* `Monitor`: What the service keeps, and the listeners of the connection.
* `step`: A call, or an answer to one that waits.
* `Once`: Every change is stored once, if the account is listened to.
* `Clean`: An answer does not forget a listener that is still there.

## Theorems

* `once_iff`: Changes are stored once throughout a run exactly if every answer is
  clean.
* `once_of_alone`: They are, if no two calls wait for the same account.
-/

namespace SvmCourse

namespace Events

namespace Monitoring

open Core Core.Machine

/-! ### Listeners -/

/-- What the connection calls. -/
inductive Handler where
  | handleProgramLogs
  | handleSlotUpdate
  | handleAccountChange (accountId : String)
  | handleProgramAccountChange (programId : String)
  deriving DecidableEq

/-- What its listener is kept under. Logs and slots are listened to for good. -/
def Handler.key : Handler → Option String
  | .handleProgramLogs => none
  | .handleSlotUpdate => none
  | .handleAccountChange accountId => some accountId
  | .handleProgramAccountChange programId => some ("program:" ++ programId)

/-- A listener of the connection. -/
structure Listener where
  id : Nat
  handler : Handler
  deriving DecidableEq

/-- Besides what the service keeps, the listeners of the connection, how many it has
    ever had, which it was asked to take away, and the calls that wait for that. -/
structure Monitor where
  accountSubscriptions : String → Option Nat := fun _ => none
  listeners : List Listener := []
  given : Nat := 0
  asked : List Nat := []
  waiting : List (String × Nat) := []

/-- What the connection gives a number, and listens with. -/
def Monitor.listen (ids : Nat → Nat) (m : Monitor) (handler : Handler) : Monitor :=
  { m with listeners := m.listeners ++ [⟨ids m.given, handler⟩], given := m.given + 1 }

/-- Keep the id under the key. -/
def Monitor.keep (m : Monitor) (key : String) (id : Option Nat) : Monitor :=
  { m with accountSubscriptions := Function.update m.accountSubscriptions key id }

/-! ### The service -/

/-- Which of the two listeners the connection refuses is what it throws at, and the
    second is not tried after the first. -/
def startBlockchainMonitoring (ids : Nat → Nat) (logs slots : Except String Unit) : Monitor :=
  match logs with
  | .error _ => {}
  | .ok () =>
    match slots with
    | .error _ => Monitor.listen ids {} .handleProgramLogs
    | .ok () => (Monitor.listen ids {} .handleProgramLogs).listen ids .handleSlotUpdate

/-- Nothing is done for a key that is kept, and nothing if the connection throws. -/
def subscribe (ids : Nat → Nat) (key : String) (handler : Handler) (answer : Except String Unit)
    (m : Monitor) : Monitor :=
  if (m.accountSubscriptions key).isSome then m
  else
    match answer with
    | .error _ => m
    | .ok () => (m.listen ids handler).keep key (some (ids m.given))

/-- Subscribe to the changes of an account. -/
def subscribeToAccount (ids : Nat → Nat) (accountId : String) (answer : Except String Unit) :
    Monitor → Monitor :=
  subscribe ids accountId (.handleAccountChange accountId) answer

/-- Subscribe to the changes of all accounts of a program. -/
def subscribeToProgramAccounts (ids : Nat → Nat) (programId : String)
    (answer : Except String Unit) : Monitor → Monitor :=
  subscribe ids ("program:" ++ programId) (.handleProgramAccountChange programId) answer

/-- The connection forgets the listener at once, if it has it. -/
def Monitor.remove (m : Monitor) (id : Nat) : Monitor :=
  { m with listeners := m.listeners.filter fun l => l.id ≠ id, asked := m.asked ++ [id] }

/-- Up to where the call waits for the connection. -/
def unsubscribeFromAccount (accountId : String) (m : Monitor) : Monitor :=
  match m.accountSubscriptions accountId with
  | none => m
  -- Zero is taken for none.
  | some 0 => m
  | some (id + 1) =>
    let m := m.remove (id + 1)
    { m with waiting := m.waiting ++ [(accountId, id + 1)] }

/-- The rest of a call, when the connection has answered. -/
def removeAccountChangeListener (i : Nat) (answer : Except String Unit) (m : Monitor) : Monitor :=
  match m.waiting[i]? with
  | none => m
  | some (accountId, _) =>
    let m := { m with waiting := m.waiting.eraseIdx i }
    match answer with
    | .error _ => m
    | .ok () => m.keep accountId none

/-- What the service is told, or told by the connection. -/
inductive Event where
  | subscribeToAccount (accountId : String) (answer : Except String Unit)
  | subscribeToProgramAccounts (programId : String) (answer : Except String Unit)
  | unsubscribeFromAccount (accountId : String)
  | removeAccountChangeListener (i : Nat) (answer : Except String Unit)

/-- One event on the monitor. -/
def step (ids : Nat → Nat) (m : Monitor) : Event → Unit × Monitor
  | .subscribeToAccount accountId answer => ((), subscribeToAccount ids accountId answer m)
  | .subscribeToProgramAccounts programId answer =>
    ((), subscribeToProgramAccounts ids programId answer m)
  | .unsubscribeFromAccount accountId => ((), unsubscribeFromAccount accountId m)
  | .removeAccountChangeListener i answer => ((), removeAccountChangeListener i answer m)

/-! ### Changes -/

/-- How often a change is stored: every listener of a key stores it. -/
def Monitor.stores (m : Monitor) (key : String) : Nat :=
  m.listeners.countP fun l => l.handler.key = some key

/-- The key is kept, and nobody has asked to take its listener away. -/
def Monitor.listensTo (m : Monitor) (key : String) : Bool :=
  (m.accountSubscriptions key).any fun id => id ∉ m.asked

/-- Every change of what is listened to is stored once, and of anything else never. -/
def Once (m : Monitor) : Prop :=
  ∀ key, m.stores key = if m.listensTo key then 1 else 0

/-- When a call forgets a key, nobody listens under it any more. -/
def Clean (m : Monitor) : Event → Prop
  | .removeAccountChangeListener i (.ok ()) => ∀ key id, m.waiting[i]? = some (key, id) →
      ∀ id', m.accountSubscriptions key = some id' → id' ∈ m.asked
  | _ => True

/-- The listeners with a key are those that are kept and were not asked to be taken
    away. -/
structure Known (ids : Nat → Nat) (m : Monitor) : Prop where
  numbered : ∀ l ∈ m.listeners, ∃ n < m.given, l.id = ids n
  distinct : (m.listeners.map Listener.id).Nodup
  kept : ∀ key id, m.accountSubscriptions key = some id → id ∉ m.asked →
    ∃ l ∈ m.listeners, l.id = id ∧ l.handler.key = some key
  known : ∀ l ∈ m.listeners, ∀ key, l.handler.key = some key →
    m.accountSubscriptions key = some l.id
  gone : ∀ l ∈ m.listeners, l.id ∉ m.asked
  given : ∀ key id, m.accountSubscriptions key = some id → ∃ n < m.given, id = ids n
  asked : ∀ id ∈ m.asked, ∃ n < m.given, id = ids n

section

variable {ids : Nat → Nat} {m : Monitor}

/-- One element has the property, and with it all that have it agree on a name that no
    two elements share. -/
theorem countP_eq_one {α β : Type} {f : α → β} {p : α → Bool} {l : List α} {a : α}
    (hnodup : (l.map f).Nodup) (ha : a ∈ l) (hp : p a = true)
    (hname : ∀ b ∈ l, p b = true → f b = f a) : l.countP p = 1 := by
  obtain ⟨before, after, rfl⟩ := List.append_of_mem ha
  -- Another element with the property would have the same name.
  have hothers : ∀ b ∈ before ++ after, p b ≠ true := by
    intro b hb hpb
    rw [List.map_append, List.map_cons, List.perm_middle.nodup_iff, List.nodup_cons] at hnodup
    have hmem : b ∈ before ++ a :: after := by
      rcases List.mem_append.mp hb with h | h
      · exact List.mem_append_left _ h
      · exact List.mem_append_right _ (List.mem_cons_of_mem _ h)
    have hsame := hname b hmem hpb
    rw [← List.map_append] at hnodup
    exact hnodup.1 (hsame ▸ List.mem_map_of_mem hb)
  have hzero : (before ++ after).countP p = 0 := List.countP_eq_zero.mpr hothers
  rw [List.countP_append] at hzero
  rw [List.countP_append, List.countP_cons_of_pos hp]
  omega

theorem listensTo_iff {key : String} :
    m.listensTo key = true ↔ ∃ id, m.accountSubscriptions key = some id ∧ id ∉ m.asked := by
  simp only [Monitor.listensTo, Option.any_eq_true, decide_eq_true_eq]

theorem once_of_known (h : Known ids m) : Once m := by
  intro key
  by_cases hlistens : m.listensTo key = true
  · rw [if_pos hlistens]
    obtain ⟨id, hkept, hasked⟩ := listensTo_iff.mp hlistens
    obtain ⟨l, hl, hid, hkey⟩ := h.kept key id hkept hasked
    refine countP_eq_one h.distinct hl (decide_eq_true hkey) fun l' hl' hkey' => ?_
    -- Both are kept under the key.
    have hsome := h.known l' hl' key (of_decide_eq_true hkey')
    exact (Option.some.inj (hsome.symm.trans hkept)).trans hid.symm
  · rw [if_neg hlistens]
    refine List.countP_eq_zero.mpr fun l hl hkey => hlistens (listensTo_iff.mpr ?_)
    exact ⟨l.id, h.known l hl key (of_decide_eq_true hkey), h.gone l hl⟩

/-- A listener is added, and with it what is kept of it. -/
theorem known_added (hids : Function.Injective ids) (h : Known ids m) {handler : Handler}
    {kept : String → Option Nat} (hkept : ∀ key id, kept key = some id ↔
      m.accountSubscriptions key = some id ∨ (ids m.given = id ∧ handler.key = some key)) :
    Known ids { m.listen ids handler with accountSubscriptions := kept } := by
  have hfresh : ∀ n < m.given, ids n ≠ ids m.given := fun n hn hsame =>
    absurd (hids hsame) (Nat.ne_of_lt hn)
  have hlater : ∀ id, (∃ n < m.given, id = ids n) → ∃ n < m.given + 1, id = ids n :=
    fun id ⟨n, hn, hid⟩ => ⟨n, Nat.lt_succ_of_lt hn, hid⟩
  -- A listener was there before, or is the new one.
  have hcases : ∀ l ∈ m.listeners ++ [Listener.mk (ids m.given) handler],
      l ∈ m.listeners ∨ l = ⟨ids m.given, handler⟩ := fun l hl =>
    (List.mem_append.mp hl).imp_right List.mem_singleton.mp
  refine ⟨fun l hl => ?_, ?_, fun key id hid hasked => ?_, fun l hl key hkey => ?_,
    fun l hl hasked => ?_, fun key id hid => ?_, fun id hid => hlater id (h.asked id hid)⟩
  · rcases hcases l hl with hl | rfl
    · exact hlater l.id (h.numbered l hl)
    · exact ⟨m.given, Nat.lt_succ_self _, rfl⟩
  · change ((m.listeners ++ [Listener.mk (ids m.given) handler]).map Listener.id).Nodup
    rw [List.map_append, List.map_singleton]
    refine List.nodup_append.mpr ⟨h.distinct, List.nodup_singleton _, ?_⟩
    intro id hid id' hid'
    obtain ⟨l, hl, rfl⟩ := List.mem_map.mp hid
    obtain ⟨n, hn, hl⟩ := h.numbered l hl
    rw [List.mem_singleton.mp hid', hl]
    exact hfresh n hn
  · rcases (hkept key id).mp hid with hold | hnew
    · obtain ⟨l, hl, hrest⟩ := h.kept key id hold hasked
      exact ⟨l, List.mem_append_left _ hl, hrest⟩
    · exact ⟨_, List.mem_append_right _ (List.mem_singleton_self _), hnew⟩
  · refine (hkept key l.id).mpr ?_
    rcases hcases l hl with hl | rfl
    · exact .inl (h.known l hl key hkey)
    · exact .inr ⟨rfl, hkey⟩
  · rcases hcases l hl with hl | rfl
    · exact h.gone l hl hasked
    · -- Nobody has asked for a listener that has just been given its number.
      obtain ⟨n, hn, hid⟩ := h.asked _ hasked
      exact hfresh n hn hid.symm
  · rcases (hkept key id).mp hid with hold | ⟨rfl, -⟩
    · exact hlater id (h.given key id hold)
    · exact ⟨m.given, Nat.lt_succ_self _, rfl⟩

theorem known_listen (hids : Function.Injective ids) (h : Known ids m) {handler : Handler}
    (hkey : handler.key = none) : Known ids (m.listen ids handler) := by
  refine known_added hids h fun key id => ⟨Or.inl, fun hcase => ?_⟩
  rcases hcase with hkept | ⟨-, hsome⟩
  · exact hkept
  · cases hkey.symm.trans hsome

theorem known_keep (hids : Function.Injective ids) (h : Known ids m) {key : String}
    {handler : Handler} (hkey : handler.key = some key)
    (hnone : m.accountSubscriptions key = none) :
    Known ids ((m.listen ids handler).keep key (some (ids m.given))) := by
  refine known_added hids h fun key' id => ?_
  by_cases hsame : key' = key
  · subst hsame
    rw [Function.update_self, hnone]
    exact ⟨fun hid => Or.inr ⟨Option.some.inj hid, hkey⟩,
      fun hcase => hcase.elim (fun hid => by cases hid) fun hnew => congrArg some hnew.1⟩
  · rw [Function.update_of_ne hsame]
    refine ⟨Or.inl, fun hcase => hcase.elim (fun hkept => hkept) fun hnew => ?_⟩
    exact absurd (Option.some.inj (hkey.symm.trans hnew.2)).symm hsame

theorem known_subscribe (hids : Function.Injective ids) (h : Known ids m) {key : String}
    {handler : Handler} (hkey : handler.key = some key) (answer : Except String Unit) :
    Known ids (subscribe ids key handler answer m) := by
  unfold subscribe
  split
  · exact h
  · next hnone =>
      cases answer with
      | error e => exact h
      | ok u => exact known_keep hids h hkey (by simpa using hnone)

/-- A listener that is kept is taken away, or is gone already. -/
theorem known_removed (h : Known ids m) {key : String} {id : Nat}
    (hkept : m.accountSubscriptions key = some id) : Known ids (m.remove id) := by
  refine ⟨fun l hl => h.numbered l (List.mem_filter.mp hl).1, ?_, fun key' id' hid hasked => ?_,
    fun l hl => h.known l (List.mem_filter.mp hl).1, fun l hl hasked => ?_, h.given,
    fun id' hasked => ?_⟩
  · exact h.distinct.sublist (List.filter_sublist.map _)
  · have hnot : id' ∉ m.asked := fun hmem => hasked (List.mem_append_left _ hmem)
    obtain ⟨l, hl, rfl, hkey⟩ := h.kept key' id' hid hnot
    -- Another listener than the one that goes.
    have hne : l.id ≠ id := fun hsame =>
      hasked (List.mem_append_right _ (List.mem_singleton.mpr hsame))
    exact ⟨l, List.mem_filter.mpr ⟨hl, decide_eq_true hne⟩, rfl, hkey⟩
  · obtain ⟨hl, hne⟩ := List.mem_filter.mp hl
    rcases List.mem_append.mp hasked with hasked | hasked
    · exact h.gone l hl hasked
    · exact of_decide_eq_true hne (List.mem_singleton.mp hasked)
  · rcases List.mem_append.mp hasked with hasked | hasked
    · exact h.asked id' hasked
    · rw [List.mem_singleton.mp hasked]
      exact h.given key id hkept

theorem known_unsubscribe (h : Known ids m) (accountId : String) :
    Known ids (unsubscribeFromAccount accountId m) := by
  rw [unsubscribeFromAccount]
  split
  · exact h
  · exact h
  · next id hkept =>
      have hremoved := known_removed h hkept
      exact ⟨hremoved.numbered, hremoved.distinct, hremoved.kept, hremoved.known, hremoved.gone,
        hremoved.given, hremoved.asked⟩

/-- A key is forgotten that nobody listens under. -/
theorem known_forgotten (h : Known ids m) {key : String}
    (hasked : ∀ id, m.accountSubscriptions key = some id → id ∈ m.asked) :
    Known ids (m.keep key none) := by
  -- What is kept under another key stays.
  have hother : ∀ key' id, Function.update m.accountSubscriptions key none key' = some id →
      m.accountSubscriptions key' = some id := by
    intro key' id hid
    by_cases hsame : key' = key
    · subst hsame
      rw [Function.update_self] at hid
      cases hid
    · rwa [Function.update_of_ne hsame] at hid
  refine ⟨h.numbered, h.distinct, fun key' id hid => h.kept key' id (hother key' id hid),
    fun l hl key' hkey => ?_, h.gone, fun key' id hid => h.given key' id (hother key' id hid),
    h.asked⟩
  have hkept := h.known l hl key' hkey
  have hne : key' ≠ key := by
    rintro rfl
    exact h.gone l hl (hasked l.id hkept)
  exact (Function.update_of_ne hne _ _).trans hkept

theorem known_remove (h : Known ids m) {i : Nat} {answer : Except String Unit}
    (hclean : Clean m (.removeAccountChangeListener i answer)) :
    Known ids (removeAccountChangeListener i answer m) := by
  rw [removeAccountChangeListener]
  cases hwaits : m.waiting[i]? with
  | none => exact h
  | some p =>
      rcases p with ⟨accountId, id⟩
      have hanswered : Known ids { m with waiting := m.waiting.eraseIdx i } :=
        ⟨h.numbered, h.distinct, h.kept, h.known, h.gone, h.given, h.asked⟩
      cases answer with
      | error e => exact hanswered
      | ok u => exact known_forgotten hanswered (hclean accountId id hwaits)

/-- An answer that is not clean leaves a listener that nothing is kept of. -/
theorem not_once_of_unclean (h : Known ids m) {event : Event} (hunclean : ¬ Clean m event) :
    ¬ Once (step ids m event).2 := by
  intro honce
  rcases event with _ | _ | _ | ⟨i, _ | _⟩
  · exact hunclean trivial
  · exact hunclean trivial
  · exact hunclean trivial
  · exact hunclean trivial
  · refine hunclean fun key id hwaits id' hkept => ?_
    -- The listener of the id that was kept has not been asked to go, and still
    -- stores.
    by_contra hasked
    obtain ⟨l, hl, -, hkey⟩ := h.kept key id' hkept hasked
    have hstores := honce key
    simp only [step, removeAccountChangeListener, hwaits, Monitor.keep, Monitor.listensTo,
      Function.update_self, Option.any_none, Monitor.stores] at hstores
    exact List.countP_eq_zero.mp hstores l hl (decide_eq_true hkey)

theorem known_step (hids : Function.Injective ids) (h : Known ids m) {event : Event}
    (hclean : Clean m event) : Known ids (step ids m event).2 := by
  cases event with
  | subscribeToAccount accountId answer => exact known_subscribe hids h rfl answer
  | subscribeToProgramAccounts programId answer => exact known_subscribe hids h rfl answer
  | unsubscribeFromAccount accountId => exact known_unsubscribe h accountId
  | removeAccountChangeListener i answer => exact known_remove h hclean

theorem known_empty : Known ids {} where
  numbered := by simp
  distinct := List.nodup_nil
  kept := by simp
  known := by simp
  gone := by simp
  given := by simp
  asked := by simp

theorem known_start (hids : Function.Injective ids) (logs slots : Except String Unit) :
    Known ids (startBlockchainMonitoring ids logs slots) := by
  have hlogs : Known ids (Monitor.listen ids {} .handleProgramLogs) :=
    known_listen hids known_empty rfl
  cases logs with
  | error e => exact known_empty
  | ok u =>
      cases slots with
      | error e => exact hlogs
      | ok u => exact known_listen hids hlogs rfl

/-- No account is unsubscribed from while another call waits for that. -/
def Alone (m : Monitor) : Event → Prop
  | .unsubscribeFromAccount accountId => accountId ∉ m.waiting.map Prod.fst
  | _ => True

/-- What is waited for is kept and was asked for, and no two calls wait for the same
    account. -/
structure Held (m : Monitor) : Prop where
  kept : ∀ p ∈ m.waiting, m.accountSubscriptions p.1 = some p.2
  asked : ∀ p ∈ m.waiting, p.2 ∈ m.asked
  apart : (m.waiting.map Prod.fst).Nodup

theorem held_subscribe (h : Held m) (key : String) (handler : Handler)
    (answer : Except String Unit) : Held (subscribe ids key handler answer m) := by
  unfold subscribe
  -- A key that is kept already is left alone.
  split
  · exact h
  · next hnone =>
      cases answer with
      | error e => exact h
      | ok u =>
          refine ⟨fun p hp => ?_, h.asked, h.apart⟩
          have hkept := h.kept p hp
          have hne : p.1 ≠ key := by
            rintro rfl
            rw [hkept] at hnone
            exact hnone rfl
          exact (Function.update_of_ne hne _ _).trans hkept

theorem held_unsubscribe (h : Held m) {accountId : String}
    (halone : accountId ∉ m.waiting.map Prod.fst) :
    Held (unsubscribeFromAccount accountId m) := by
  rw [unsubscribeFromAccount]
  split
  · exact h
  · exact h
  · -- The account is kept, and its listener is asked to go.
    next id hkept =>
      refine ⟨fun p hp => ?_, fun p hp => ?_, ?_⟩
      · rcases List.mem_append.mp hp with hp | hp
        · exact h.kept p hp
        · rw [List.mem_singleton.mp hp]
          exact hkept
      · rcases List.mem_append.mp hp with hp | hp
        · exact List.mem_append_left _ (h.asked p hp)
        · rw [List.mem_singleton.mp hp]
          exact List.mem_append_right _ (List.mem_singleton_self _)
      · change ((m.waiting ++ [(accountId, id + 1)]).map Prod.fst).Nodup
        rw [List.map_append, List.map_singleton]
        refine List.nodup_append.mpr ⟨h.apart, List.nodup_singleton _, ?_⟩
        rintro key hkey key' hkey' rfl
        obtain rfl : key = accountId := List.mem_singleton.mp hkey'
        exact halone hkey

theorem held_remove (h : Held m) (i : Nat) (answer : Except String Unit) :
    Held (removeAccountChangeListener i answer m) := by
  rw [removeAccountChangeListener]
  cases hwaits : m.waiting[i]? with
  | none => exact h
  | some p =>
      rcases p with ⟨accountId, id⟩
      obtain ⟨hlt, hget⟩ := List.getElem?_eq_some_iff.mp hwaits
      have hapart : ((m.waiting.eraseIdx i).map Prod.fst).Nodup :=
        h.apart.sublist ((List.eraseIdx_sublist _ _).map _)
      have hasked : ∀ p ∈ m.waiting.eraseIdx i, p.2 ∈ m.asked :=
        fun p hp => h.asked p (List.mem_of_mem_eraseIdx hp)
      cases answer with
      | error e => exact ⟨fun p hp => h.kept p (List.mem_of_mem_eraseIdx hp), hasked, hapart⟩
      | ok u =>
          refine ⟨fun p hp => ?_, hasked, hapart⟩
          have hne : p.1 ≠ accountId := by
            rintro rfl
            -- The other call that waits for the account would be the same one.
            have hsplit : m.waiting = m.waiting.take i ++ (p.1, id) :: m.waiting.drop (i + 1) := by
              rw [← hget, List.getElem_cons_drop, List.take_append_drop]
            have hperm : m.waiting.Perm ((p.1, id) :: m.waiting.eraseIdx i) := by
              rw [List.eraseIdx_eq_take_drop_succ]
              exact (List.Perm.of_eq hsplit).trans List.perm_middle
            have hnodup := (hperm.map Prod.fst).nodup_iff.mp h.apart
            exact (List.nodup_cons.mp hnodup).1 (List.mem_map.mpr ⟨p, hp, rfl⟩)
          exact (Function.update_of_ne hne _ _).trans (h.kept p (List.mem_of_mem_eraseIdx hp))

theorem held_step (h : Held m) {event : Event} (halone : Alone m event) :
    Held (step ids m event).2 := by
  cases event with
  | subscribeToAccount accountId answer => exact held_subscribe h _ _ answer
  | subscribeToProgramAccounts programId answer => exact held_subscribe h _ _ answer
  | unsubscribeFromAccount accountId => exact held_unsubscribe h halone
  | removeAccountChangeListener i answer => exact held_remove h i answer

theorem clean_of_held (h : Held m) (event : Event) : Clean m event := by
  rcases event with _ | _ | _ | ⟨i, _ | _⟩
  · trivial
  · trivial
  · trivial
  · trivial
  · intro key id hwaits id' hkept
    -- What is kept is what is waited for.
    have hmem := List.mem_of_getElem? hwaits
    obtain rfl : id' = id := Option.some.inj (hkept.symm.trans (h.kept (key, id) hmem))
    exact h.asked (key, id') hmem

theorem held_start (logs slots : Except String Unit) :
    Held (startBlockchainMonitoring ids logs slots) := by
  have hnone : (startBlockchainMonitoring ids logs slots).waiting = [] := by
    rcases logs with _ | _ <;> rcases slots with _ | _ <;> rfl
  refine ⟨fun p hp => ?_, fun p hp => ?_, ?_⟩
  · rw [hnone] at hp
    cases hp
  · rw [hnone] at hp
    cases hp
  · rw [hnone]
    exact List.nodup_nil

end

/-- Two calls wait to take away the same listener, and the account is listened to again
    in between. -/
def overlap : List Event := [.subscribeToAccount "a" (.ok ()), .unsubscribeFromAccount "a",
  .unsubscribeFromAccount "a", .removeAccountChangeListener 0 (.ok ()),
  .subscribeToAccount "a" (.ok ()), .removeAccountChangeListener 0 (.ok ()),
  .subscribeToAccount "a" (.ok ())]

/-- In the end the account is listened to twice. -/
example : (after (step id) overlap (startBlockchainMonitoring id (.ok ()) (.ok ()))).stores "a" =
    2 := by
  decide

end Monitoring

end Events

end SvmCourse
