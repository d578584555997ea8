import Mathlib.Data.List.Count
import SvmCourse.Core.Machine
import SvmCourse.Events.Gateway

/-!
# Subscriptions

A socket is subscribed to a type of event in three places: it is in the room of
the type, the type is on its list, and the client has an active row. Subscribing
keeps the three together, however often a type is repeated.

Unsubscribing does not. The socket leaves the room, while only one entry is taken
from its list, and the row is made inactive although other sockets of the client
may be in the room. And disconnecting leaves the rows active. What unsubscribing
and disconnecting have to find for the three to agree afterwards is `Clean`.

## Main definitions

* `Agrees`: Rooms, lists and rows say the same.
* `Clean`: When an event leaves them so.
* `Tidy`: What holds after every event.
* `Left`: What unsubscribing from types does.

## Theorems

* `sound_subscribe`: Subscribing to a type keeps rooms, lists and rows together.
* `left_unsubscribe`: Unsubscribing stops at a type without a row.
* `agrees_left_iff`, `agrees_disconnect_iff`: When they still agree.
* `subscriptions_agree_iff`: In every run they agree after each event exactly if
  each event was clean.
-/

namespace SvmCourse

namespace Events

open Core Core.Prog Core.Machine

/-! ### Agreement -/

/-- The socket is in the room of the type. -/
def World.InRoom (world : World) (socket : Nat) (eventType : String) : Prop :=
  eventRoom eventType ∈ world.rooms socket

/-- There is an active row of the client and the type. -/
def Active (rows : List EventSubscription) (clientId eventType : String) : Prop :=
  ∃ row ∈ rows, row.clientId = clientId ∧ row.eventType = eventType ∧
    row.subscriptionType = .WEBSOCKET ∧ row.status = .ACTIVE

/-- Some connected socket of the client is in the room of the type. -/
def World.Listens (world : World) (clientId eventType : String) : Prop :=
  ∃ socket data, world.connectedClients socket = some data ∧ data.clientId = clientId ∧
    world.InRoom socket eventType

/-- Rooms, lists and rows agree. -/
structure Agrees (world : World) : Prop where
  rooms : ∀ socket data, world.connectedClients socket = some data →
    ∀ eventType, world.InRoom socket eventType ↔ eventType ∈ data.subscriptions
  rows : ∀ clientId eventType, Active world.eventSubscriptions clientId eventType ↔
    world.Listens clientId eventType

/-- Client and type of a row. -/
def EventSubscription.key (row : EventSubscription) : String × String :=
  (row.clientId, row.eventType)

/-- The types up to the first one of which the client has no row. -/
def World.processed (world : World) (clientId : String) (eventTypes : List String) :
    List String :=
  eventTypes.takeWhile fun eventType =>
    (clientId, eventType) ∈ world.eventSubscriptions.map EventSubscription.key

/-- Unsubscribing processes each type as often as it is on the list of the socket,
    and no other socket of the client has it on its list. When a socket
    disconnects, the types on its list are on the list of another one. -/
def Event.Clean (world : World) : Event → Prop
  | .connect _ => True
  | .subscribe _ _ => True
  -- The row is of the client, the list and the room of one of its sockets.
  | .unsubscribe socket eventTypes => ∀ data, world.connectedClients socket = some data →
      ∀ eventType ∈ world.processed data.clientId eventTypes,
        data.subscriptions.count eventType ≤
          (world.processed data.clientId eventTypes).count eventType ∧
        ∀ other data', other ≠ socket → world.connectedClients other = some data' →
          data'.clientId = data.clientId → eventType ∉ data'.subscriptions
  | .disconnect socket => ∀ data, world.connectedClients socket = some data →
      ∀ eventType ∈ data.subscriptions, ∃ other data', other ≠ socket ∧
        world.connectedClients other = some data' ∧ data'.clientId = data.clientId ∧
        eventType ∈ data'.subscriptions

/-- What holds after every event: connections are numbered, sockets that are not
    connected are in no room, and there is one row of a client and a type. -/
structure Tidy (world : World) : Prop where
  numbered : ∀ socket, world.connections ≤ socket → world.connectedClients socket = none
  apart : ∀ socket, world.connectedClients socket = none → world.rooms socket = []
  unique : (world.eventSubscriptions.map EventSubscription.key).Nodup
  websocket : ∀ row ∈ world.eventSubscriptions, row.subscriptionType = .WEBSOCKET

/-! ### Rows -/

theorem eventRoom_inj {a b : String} (h : eventRoom a = eventRoom b) : a = b :=
  String.append_right_inj _ |>.mp h

theorem eventRoom_ne_clientRoom (a b : String) : eventRoom a ≠ clientRoom b := by
  intro h
  -- The first letters differ.
  have hlists := congrArg String.toList h
  simp [eventRoom, clientRoom] at hlists

theorem rowOf_some {world : World} {kind : EventSubscription → Bool} {row : EventSubscription}
    {id : Nat} (h : world.rowOf kind = some (row, id)) :
    world.eventSubscriptions[id]? = some row ∧ kind row = true := by
  obtain ⟨i, hi, hrest⟩ := Option.bind_eq_some_iff.mp h
  obtain ⟨r, hr, hpair⟩ := Option.bind_eq_some_iff.mp hrest
  cases hpair
  obtain ⟨hlt, hkind, -⟩ := List.findIdx?_eq_some_iff_getElem.mp hi
  obtain ⟨hlt', hget⟩ := List.getElem?_eq_some_iff.mp hr
  exact ⟨hr, hget ▸ hkind⟩

theorem rowOf_none {world : World} {kind : EventSubscription → Bool}
    (h : world.rowOf kind = none) : ∀ row ∈ world.eventSubscriptions, kind row = false := by
  cases hid : world.eventSubscriptions.findIdx? kind with
  | none => exact List.findIdx?_eq_none_iff.mp hid
  | some id =>
      obtain ⟨hlt, -⟩ := List.findIdx?_eq_some_iff_getElem.mp hid
      rw [World.rowOf, hid] at h
      change (world.eventSubscriptions[id]?).bind _ = none at h
      rw [List.getElem?_eq_getElem hlt] at h
      exact nomatch h

/-- Replacing the only element with a key. -/
theorem mem_set_of_nodup {α β : Type} {f : α → β} {l : List α} {i : Nat} {r r' x : α}
    (hunique : (l.map f).Nodup) (hr : l[i]? = some r) :
    x ∈ l.set i r' ↔ x = r' ∨ (x ∈ l ∧ f x ≠ f r) := by
  obtain ⟨hlt, hget⟩ := List.getElem?_eq_some_iff.mp hr
  have hsplit : l = l.take i ++ r :: l.drop (i + 1) := by
    rw [← hget, List.getElem_cons_drop, List.take_append_drop]
  have hset : l.set i r' = l.take i ++ r' :: l.drop (i + 1) :=
    List.set_eq_take_append_cons_drop .. |>.trans (if_pos hlt)
  rw [hsplit, List.map_append, List.map_cons, List.nodup_append, List.nodup_cons] at hunique
  obtain ⟨-, ⟨hafter, -⟩, hcross⟩ := hunique
  -- Keys differ, so the element is on neither side of its place.
  have hbefore : ∀ y ∈ l.take i, f y ≠ f r := fun y hy =>
    hcross (f y) (List.mem_map_of_mem hy) (f r) (List.mem_cons_self ..)
  have hlater : ∀ y ∈ l.drop (i + 1), f y ≠ f r := fun y hy h =>
    hafter (h ▸ List.mem_map_of_mem hy)
  rw [hset, List.mem_append, List.mem_cons]
  constructor
  · rintro (hx | rfl | hx)
    · exact .inr ⟨List.mem_of_mem_take hx, hbefore x hx⟩
    · exact .inl rfl
    · exact .inr ⟨List.mem_of_mem_drop hx, hlater x hx⟩
  · rintro (rfl | ⟨hx, hne⟩)
    · exact .inr (.inl rfl)
    · rw [hsplit, List.mem_append, List.mem_cons] at hx
      rcases hx with hx | rfl | hx
      · exact .inl hx
      · exact absurd rfl hne
      · exact .inr (.inr hx)

section

variable {rows : List EventSubscription} {row : EventSubscription} {id : Nat}
  {clientId eventType c t : String}

/-- Saving a row under its client and type leaves the clients and types alone. -/
theorem keys_set {row' : EventSubscription} (hrow : rows[id]? = some row)
    (hkey : row'.key = row.key) :
    (rows.set id row').map EventSubscription.key = rows.map EventSubscription.key := by
  obtain ⟨hlt, hget⟩ := List.getElem?_eq_some_iff.mp hrow
  have hlt' : id < (rows.map EventSubscription.key).length := by rwa [List.length_map]
  have hself := List.set_getElem_self hlt'
  rw [List.getElem_map, hget, ← hkey] at hself
  rw [List.map_set]
  exact hself

/-- Saving a row changes what is active of its client and type. -/
theorem active_set {status : SubscriptionStatus}
    (hunique : (rows.map EventSubscription.key).Nodup)
    (hrow : rows[id]? = some row) (htype : row.subscriptionType = .WEBSOCKET) :
    Active (rows.set id { row with status }) c t ↔
      if (c, t) = row.key then status = .ACTIVE else Active rows c t := by
  have hmem : ∀ x, x ∈ rows.set id { row with status } ↔
      x = { row with status } ∨ (x ∈ rows ∧ x.key ≠ row.key) :=
    fun _ => mem_set_of_nodup hunique hrow
  -- The row that is saved decides for its client and type, and for no other.
  split
  · next hkey =>
      obtain ⟨rfl, rfl⟩ := Prod.mk.inj hkey
      constructor
      · rintro ⟨x, hx, hc, ht, -, hactive⟩
        rcases (hmem x).mp hx with rfl | ⟨-, hne⟩
        · exact hactive
        · exact absurd (Prod.ext hc ht) hne
      · exact fun hstatus => ⟨_, (hmem _).mpr (.inl rfl), rfl, rfl, htype, hstatus⟩
  · next hkey =>
      constructor
      · rintro ⟨x, hx, rfl, rfl, hrest⟩
        rcases (hmem x).mp hx with rfl | ⟨hx, -⟩
        · exact absurd rfl hkey
        · exact ⟨x, hx, rfl, rfl, hrest⟩
      · rintro ⟨x, hx, rfl, rfl, hrest⟩
        exact ⟨x, (hmem x).mpr (.inr ⟨hx, hkey⟩), rfl, rfl, hrest⟩

theorem active_append : Active (rows ++ [row]) c t ↔
    Active rows c t ∨ ((c, t) = row.key ∧ row.subscriptionType = .WEBSOCKET ∧
      row.status = .ACTIVE) := by
  constructor
  · rintro ⟨x, hx, rfl, rfl, hrest⟩
    rcases List.mem_append.mp hx with hx | hx
    · exact .inl ⟨x, hx, rfl, rfl, hrest⟩
    · rw [List.mem_singleton.mp hx] at hrest ⊢
      exact .inr ⟨rfl, hrest⟩
  · rintro (⟨x, hx, hrest⟩ | ⟨hkey, hrest⟩)
    · exact ⟨x, List.mem_append_left _ hx, hrest⟩
    · obtain ⟨rfl, rfl⟩ := Prod.mk.inj hkey
      exact ⟨row, List.mem_append_right _ (List.mem_singleton_self row), rfl, rfl, hrest⟩

end

/-! ### Subscribing -/

section

variable {world : World} {socket : Nat} {data : ClientData} {eventType : String}

theorem connectedClients_setClient (found : Option ClientData) :
    (world.setClient socket found).connectedClients =
      Function.update world.connectedClients socket found := rfl

theorem inRoom_join {s : Nat} {t : String} :
    (world.setRooms socket (eventRoom eventType :: world.rooms socket)).InRoom s t ↔
      world.InRoom s t ∨ (s = socket ∧ t = eventType) := by
  unfold World.InRoom World.setRooms
  dsimp only
  by_cases hs : s = socket
  · subst hs
    rw [Function.update_self, List.mem_cons, or_comm]
    exact or_congr_right ⟨fun h => ⟨rfl, eventRoom_inj h⟩, fun h => congrArg _ h.2⟩
  · rw [Function.update_of_ne hs]
    exact ⟨.inl, fun h => h.resolve_right fun hno => hs hno.1⟩

theorem inRoom_leave {s : Nat} {t : String} :
    (world.setRooms socket ((world.rooms socket).filter (· ≠ eventRoom eventType))).InRoom s t ↔
      world.InRoom s t ∧ ¬(s = socket ∧ t = eventType) := by
  unfold World.InRoom World.setRooms
  dsimp only
  by_cases hs : s = socket
  · subst hs
    rw [Function.update_self, List.mem_filter, decide_eq_true_iff]
    -- Rooms are named after types, one for each.
    refine and_congr_right fun _ => not_congr ?_
    exact ⟨fun h => ⟨rfl, eventRoom_inj h⟩, fun h => congrArg _ h.2⟩
  · rw [Function.update_of_ne hs]
    exact ⟨fun h => ⟨h, fun hno => hs hno.1⟩, And.left⟩

/-- Rows that have an active one of the client and the type, and the active ones that
    there were before. -/
structure Activated (clientId eventType : String) (rows rows' : List EventSubscription) :
    Prop where
  unique : (rows'.map EventSubscription.key).Nodup
  websocket : ∀ row ∈ rows', row.subscriptionType = .WEBSOCKET
  active : ∀ c t, Active rows' c t ↔ Active rows c t ∨ (c, t) = (clientId, eventType)

/-- The row that there is becomes active. -/
theorem activated_set {row : EventSubscription} {id : Nat} (h : Tidy world)
    (hrow : world.eventSubscriptions[id]? = some row) :
    Activated row.clientId row.eventType world.eventSubscriptions
      (world.eventSubscriptions.set id { row with status := .ACTIVE }) := by
  have htype := h.websocket row (List.mem_of_getElem? hrow)
  refine ⟨?_, fun r hr => ?_, fun c t => ?_⟩
  · have hkeys : (world.eventSubscriptions.set id { row with status := .ACTIVE }).map
        EventSubscription.key = world.eventSubscriptions.map EventSubscription.key :=
      keys_set hrow rfl
    rw [hkeys]
    exact h.unique
  · rcases (mem_set_of_nodup h.unique hrow).mp hr with rfl | ⟨hr, -⟩
    · exact htype
    · exact h.websocket r hr
  · rw [active_set h.unique hrow htype]
    -- Clients and types are unique, so only this row is meant.
    by_cases hkey : (c, t) = row.key
    · simp only [hkey, if_true, true_iff]
      exact .inr rfl
    · rw [if_neg hkey]
      exact ⟨.inl, fun hor => hor.resolve_right hkey⟩

/-- A row is added where there is none of the client and the type. -/
theorem activated_append {clientId eventType : String} (h : Tidy world)
    (hnone : (clientId, eventType) ∉ world.eventSubscriptions.map EventSubscription.key) :
    Activated clientId eventType world.eventSubscriptions
      (world.eventSubscriptions ++ [({
        clientId := clientId
        eventType := eventType
        subscriptionType := .WEBSOCKET } : EventSubscription)]) := by
  refine ⟨?_, ?_, fun c t => ?_⟩
  · rw [List.map_append, List.map_singleton, List.nodup_append]
    refine ⟨h.unique, by simp, fun key hkey key' hkey' hsame => ?_⟩
    -- A second row of the key would have been there before.
    rw [hsame, List.mem_singleton.mp hkey'] at hkey
    exact hnone hkey
  · exact List.forall_mem_append.mpr ⟨h.websocket, List.forall_mem_singleton.mpr rfl⟩
  · rw [active_append]
    exact or_congr_right ⟨And.left, fun hkey => ⟨hkey, rfl, rfl⟩⟩

/-- Creating a subscription leaves an active row of the client and the type. -/
theorem createSubscription_cases (h : Tidy world) (clientId eventType : String) :
    ∃ rows, (createSubscription ⟨clientId, eventType, .WEBSOCKET⟩).eval world =
        (.ok (), { world with eventSubscriptions := rows }) ∧
      Activated clientId eventType world.eventSubscriptions rows := by
  cases hfind : world.rowOf fun row => row.clientId = clientId && row.eventType = eventType &&
      row.subscriptionType = .WEBSOCKET with
  | some found =>
      obtain ⟨row, id⟩ := found
      obtain ⟨hrow, hkind⟩ := rowOf_some hfind
      simp only [Bool.and_eq_true, decide_eq_true_iff] at hkind
      obtain ⟨⟨rfl, rfl⟩, htype⟩ := hkind
      have hlook : (subscriptionRepository.findOne fun r => r.clientId = row.clientId &&
          r.eventType = row.eventType && r.subscriptionType = .WEBSOCKET).eval world =
            (.ok (some (row, id)), world) := congrArg (fun found => (Except.ok found, world)) hfind
      -- The type of the subscription is written over the row as well.
      have hsaved : ({ row with subscriptionType := .WEBSOCKET, status := .ACTIVE } :
          EventSubscription) = { row with status := .ACTIVE } := by rw [← htype]
      refine ⟨world.eventSubscriptions.set id { row with status := .ACTIVE }, ?_,
        activated_set h hrow⟩
      rw [← hsaved]
      exact eval_bind_ok hlook
  | none =>
      have hlook : (subscriptionRepository.findOne fun r => r.clientId = clientId &&
          r.eventType = eventType && r.subscriptionType = .WEBSOCKET).eval world =
            (.ok none, world) := congrArg (fun found => (Except.ok found, world)) hfind
      refine ⟨_, eval_bind_ok hlook, activated_append h fun hmem => ?_⟩
      obtain ⟨row, hrow, hkey⟩ := List.mem_map.mp hmem
      obtain ⟨rfl, rfl⟩ := Prod.mk.inj hkey
      -- All rows are of sockets, so the lookup would have found it.
      have hfalse := rowOf_none hfind row hrow
      simp [h.websocket row hrow] at hfalse

/-- Changing the list of a socket leaves the other sockets alone. -/
theorem clients_modify (change : List String → List String)
    (hdata : world.connectedClients socket = some data) :
    (world.setClient socket ((world.connectedClients socket).map fun data =>
        { data with subscriptions := change data.subscriptions })).connectedClients socket =
      some { data with subscriptions := change data.subscriptions } ∧
    ∀ s, s ≠ socket → (world.setClient socket ((world.connectedClients socket).map fun data =>
      { data with subscriptions := change data.subscriptions })).connectedClients s =
        world.connectedClients s := by
  constructor
  · rw [connectedClients_setClient, Function.update_self, hdata]
    rfl
  · intro s hs
    rw [connectedClients_setClient, Function.update_of_ne hs]

theorem listens_modify {c t : String} (change : List String → List String)
    (hdata : world.connectedClients socket = some data) :
    (world.setClient socket ((world.connectedClients socket).map fun data =>
      { data with subscriptions := change data.subscriptions })).Listens c t ↔
        world.Listens c t := by
  obtain ⟨hself, hother⟩ := clients_modify change hdata
  -- The socket may have noted another type, and is in the rooms it was in.
  constructor
  · rintro ⟨s, d, hs, hclient, hroom⟩
    by_cases hsame : s = socket
    · subst hsame
      cases hself.symm.trans hs
      exact ⟨s, data, hdata, hclient, hroom⟩
    · exact ⟨s, d, (hother s hsame).symm.trans hs, hclient, hroom⟩
  · rintro ⟨s, d, hs, hclient, hroom⟩
    by_cases hsame : s = socket
    · subst hsame
      cases hdata.symm.trans hs
      exact ⟨s, _, hself, hclient, hroom⟩
    · exact ⟨s, d, (hother s hsame).trans hs, hclient, hroom⟩

theorem ne_of_connected {s : Nat} (htidy : Tidy world)
    (hdata : world.connectedClients socket = some data) (hs : world.connections ≤ s) :
    s ≠ socket := by
  rintro rfl
  exact nomatch hdata.symm.trans (htidy.numbered s hs)

/-- The socket is connected for the client. -/
def World.Serves (world : World) (socket : Nat) (clientId : String) : Prop :=
  ∃ data, world.connectedClients socket = some data ∧ data.clientId = clientId

/-- Subscribing to a type keeps rooms, lists and rows together. -/
theorem sound_subscribe {clientId : String} (htidy : Tidy world) (hagrees : Agrees world)
    (hserves : world.Serves socket clientId) (eventType : String) :
    ∃ world', (subscribe socket clientId eventType).eval world = (.ok (), world') ∧
      Tidy world' ∧ Agrees world' ∧ world'.Serves socket clientId := by
  obtain ⟨data, hdata, rfl⟩ := hserves
  obtain ⟨rows, hcreated, hunique, hwebsocket, hactive⟩ :=
    createSubscription_cases htidy data.clientId eventType
  -- The socket joins the room, and then the type is put on its list.
  let joined : World := World.setRooms { world with eventSubscriptions := rows } socket
    (eventRoom eventType :: world.rooms socket)
  have hjoin : ∀ s t, joined.InRoom s t ↔ world.InRoom s t ∨ (s = socket ∧ t = eventType) :=
    fun s t => inRoom_join
  have hdata' : joined.connectedClients socket = some data := hdata
  -- The row comes first, and the rest cannot fail.
  have hevent : (subscribe socket data.clientId eventType).eval world =
      (.ok (), joined.setClient socket ((joined.connectedClients socket).map fun data =>
        { data with subscriptions := data.subscriptions ++ [eventType] })) :=
    eval_bind_ok hcreated
  obtain ⟨hself, hother⟩ := clients_modify (· ++ [eventType]) hdata'
  refine ⟨_, hevent, ⟨fun s hs => ?_, fun s hs => ?_, hunique, hwebsocket⟩,
    ⟨fun s d hd t => (hjoin s t).trans ?_, fun c t => ?_⟩, _, hself, rfl⟩
  · rw [hother s (ne_of_connected htidy hdata hs)]
    exact htidy.numbered s hs
  · have hne : s ≠ socket := by
      rintro rfl
      exact nomatch hself.symm.trans hs
    rw [hother s hne] at hs
    exact (Function.update_of_ne hne ..).trans (htidy.apart s hs)
  · by_cases hsame : s = socket
    · subst hsame
      cases hself.symm.trans hd
      rw [List.mem_append, List.mem_singleton]
      exact or_congr (hagrees.rooms s data hdata t) ⟨And.right, fun h => ⟨rfl, h⟩⟩
    · rw [hother s hsame] at hd
      refine Iff.trans ⟨fun h => h.resolve_right fun hno => hsame hno.1, .inl⟩
        (hagrees.rooms s d hd t)
  · refine (hactive c t).trans (Iff.trans ?_ (listens_modify (· ++ [eventType]) hdata').symm)
    -- Who listens now has listened before, or has just subscribed.
    rw [hagrees.rows]
    constructor
    · rintro (⟨s, d, hs, hclient, hroom⟩ | hkey)
      · exact ⟨s, d, hs, hclient, (hjoin s t).mpr (.inl hroom)⟩
      · obtain ⟨rfl, rfl⟩ := Prod.mk.inj hkey
        exact ⟨socket, data, hdata, rfl, (hjoin socket t).mpr (.inr ⟨rfl, rfl⟩)⟩
    · rintro ⟨s, d, hs, hclient, hroom⟩
      rcases (hjoin s t).mp hroom with hroom | ⟨rfl, rfl⟩
      · exact .inl ⟨s, d, hs, hclient, hroom⟩
      · cases hdata.symm.trans hs
        exact .inr (Prod.ext hclient.symm rfl)

/-! ### Unsubscribing -/

/-- A socket of a client has unsubscribed from types: each was taken from its list
    once, it is in their rooms no more, and the rows of the client are not active. -/
structure Left (socket : Nat) (clientId : String) (types : List String) (world world' : World) :
    Prop where
  connections : world'.connections = world.connections
  clients : ∀ s, world'.connectedClients s = if s = socket then
    (world.connectedClients s).map fun data =>
      { data with subscriptions := types.foldl List.erase data.subscriptions }
    else world.connectedClients s
  rooms : ∀ s, s ≠ socket → world'.rooms s = world.rooms s
  inRoom : ∀ s t, world'.InRoom s t ↔ world.InRoom s t ∧ ¬(s = socket ∧ t ∈ types)
  keys : world'.eventSubscriptions.map EventSubscription.key =
    world.eventSubscriptions.map EventSubscription.key
  websocket : ∀ row ∈ world'.eventSubscriptions, row.subscriptionType = .WEBSOCKET
  active : ∀ c t, Active world'.eventSubscriptions c t ↔
    Active world.eventSubscriptions c t ∧ ¬(c = clientId ∧ t ∈ types)

variable {world' world'' : World} {clientId t : String} {types : List String}

theorem left_nil (hwebsocket : ∀ row ∈ world.eventSubscriptions,
    row.subscriptionType = .WEBSOCKET) : Left socket clientId [] world world where
  connections := rfl
  clients s := by
    split
    · exact (congrFun Option.map_id _).symm
    · rfl
  rooms _ _ := rfl
  inRoom s t := by simp
  keys := rfl
  websocket := hwebsocket
  active c t := by simp

theorem left_cons (h : Left socket clientId [t] world world')
    (h' : Left socket clientId types world' world'') :
    Left socket clientId (t :: types) world world'' where
  connections := h'.connections.trans h.connections
  clients s := by
    rw [h'.clients, h.clients]
    split
    · rw [Option.map_map]
      rfl
    · rfl
  rooms s hs := (h'.rooms s hs).trans (h.rooms s hs)
  inRoom s u := by
    -- Out of the first room, and then out of the others.
    rw [h'.inRoom, h.inRoom, List.mem_singleton, List.mem_cons, and_assoc, ← not_or, and_or_left]
  keys := h'.keys.trans h.keys
  websocket := h'.websocket
  active c u := by
    rw [h'.active, h.active, List.mem_singleton, List.mem_cons, and_assoc, ← not_or, and_or_left]

/-- The socket leaves the room, and the type is taken from its list once. -/
def World.leave (world : World) (socket : Nat) (eventType : String) : World :=
  (world.setRooms socket ((world.rooms socket).filter (· ≠ eventRoom eventType))).setClient socket
    ((world.connectedClients socket).map fun data =>
      { data with subscriptions := data.subscriptions.erase eventType })

/-- A row is made inactive, and the socket leaves the room. -/
theorem left_leave {row : EventSubscription} {id : Nat} (h : Tidy world)
    (hrow : world.eventSubscriptions[id]? = some row) (socket : Nat) :
    Left socket row.clientId [row.eventType] world
      ((world.setRow id { row with status := .INACTIVE }).leave socket row.eventType) where
  connections := rfl
  clients s := by
    refine (Function.update_apply ..).trans ?_
    split
    · next hs =>
        rw [hs]
        rfl
    · rfl
  rooms s hs := Function.update_of_ne hs ..
  inRoom s t := by
    rw [List.mem_singleton]
    exact inRoom_leave
  keys := keys_set hrow rfl
  websocket r hr := by
    rcases (mem_set_of_nodup h.unique hrow).mp hr with rfl | ⟨hr, -⟩
    · exact h.websocket row (List.mem_of_getElem? hrow)
    · exact h.websocket r hr
  active c t := by
    refine (active_set h.unique hrow (h.websocket row (List.mem_of_getElem? hrow))).trans ?_
    rw [List.mem_singleton]
    -- The row was the only one of its client and type.
    by_cases hkey : (c, t) = row.key
    · obtain ⟨rfl, rfl⟩ := Prod.mk.inj hkey
      rw [if_pos hkey]
      simp
    · rw [if_neg hkey]
      refine ⟨fun hactive => ⟨hactive, fun hsame => hkey ?_⟩, And.left⟩
      rw [hsame.1, hsame.2]
      rfl

/-- Unsubscribing from a type, if there is a row. -/
theorem unsubscribe_cases (h : Tidy world) (socket : Nat) (clientId eventType : String) :
    ((clientId, eventType) ∈ world.eventSubscriptions.map EventSubscription.key ∧
      ∃ world', (unsubscribe socket clientId eventType).eval world = (.ok (), world') ∧
        Left socket clientId [eventType] world world') ∨
    ((clientId, eventType) ∉ world.eventSubscriptions.map EventSubscription.key ∧
      ∃ message, (unsubscribe socket clientId eventType).eval world =
        (.error message, world)) := by
  cases hfind : world.rowOf fun row => row.clientId = clientId && row.eventType = eventType with
  | some found =>
      obtain ⟨row, id⟩ := found
      obtain ⟨hrow, hkind⟩ := rowOf_some hfind
      simp only [Bool.and_eq_true, decide_eq_true_iff] at hkind
      obtain ⟨rfl, rfl⟩ := hkind
      have hlook : (subscriptionRepository.findOne fun r => r.clientId = row.clientId &&
          r.eventType = row.eventType).eval world = (.ok (some (row, id)), world) :=
        congrArg (fun found => (Except.ok found, world)) hfind
      have hupdated : (updateSubscriptionByClientAndType row.clientId row.eventType
          .INACTIVE).eval world = (.ok (), world.setRow id { row with status := .INACTIVE }) :=
        eval_bind_ok hlook
      exact .inl ⟨List.mem_map_of_mem (List.mem_of_getElem? hrow), _, eval_bind_ok hupdated,
        left_leave h hrow socket⟩
  | none =>
      have hlook : (subscriptionRepository.findOne fun r => r.clientId = clientId &&
          r.eventType = eventType).eval world = (.ok none, world) :=
        congrArg (fun found => (Except.ok found, world)) hfind
      -- Without a row it fails before the socket leaves the room.
      refine .inr ⟨fun hmem => ?_, _, eval_bind_error (eval_bind_ok hlook)⟩
      obtain ⟨row, hrow, hkey⟩ := List.mem_map.mp hmem
      obtain ⟨rfl, rfl⟩ := Prod.mk.inj hkey
      have hfalse := rowOf_none hfind row hrow
      simp at hfalse

theorem tidy_left (htidy : Tidy world) (hdata : world.connectedClients socket = some data)
    (h : Left socket clientId types world world') : Tidy world' where
  numbered s hs := by
    rw [h.connections] at hs
    rw [h.clients, if_neg (ne_of_connected htidy hdata hs)]
    exact htidy.numbered s hs
  apart s hs := by
    -- The socket itself stays connected.
    have hne : s ≠ socket := by
      rintro rfl
      rw [h.clients, if_pos rfl, hdata] at hs
      exact nomatch hs
    rw [h.clients, if_neg hne] at hs
    exact (h.rooms s hne).trans (htidy.apart s hs)
  unique := by
    rw [h.keys]
    exact htidy.unique
  websocket := h.websocket

/-- Unsubscribing processes the types up to the first one without a row. -/
theorem left_unsubscribe (htidy : Tidy world)
    (hdata : world.connectedClients socket = some data) (clientId : String)
    (eventTypes : List String) : ∃ answer world',
      (each eventTypes (unsubscribe socket clientId)).eval world = (answer, world') ∧
        Left socket clientId (world.processed clientId eventTypes) world world' := by
  -- Type by type, until one has no row.
  induction eventTypes generalizing world data with
  | nil => exact ⟨_, _, rfl, left_nil htidy.websocket⟩
  | cons t eventTypes ih =>
      rcases unsubscribe_cases htidy socket clientId t with
        ⟨hmem, world', hone, hleft⟩ | ⟨hno, message, hone⟩
      · have hdata' : world'.connectedClients socket = some
            { data with subscriptions := data.subscriptions.erase t } := by
          rw [hleft.clients, if_pos rfl, hdata]
          rfl
        obtain ⟨answer, world'', hrest, hothers⟩ := ih (tidy_left htidy hdata hleft) hdata'
        refine ⟨answer, world'', (eval_bind_ok hone).trans hrest, ?_⟩
        have hprocessed : world.processed clientId (t :: eventTypes) =
            t :: world'.processed clientId eventTypes := by
          simp only [World.processed, List.takeWhile_cons, hmem, decide_true, if_true, hleft.keys]
        rw [hprocessed]
        exact left_cons hleft hothers
      · refine ⟨_, _, eval_bind_error hone, ?_⟩
        have hprocessed : world.processed clientId (t :: eventTypes) = [] := by
          simp only [World.processed, List.takeWhile_cons, hno, decide_false, Bool.false_eq_true,
            if_false]
        rw [hprocessed]
        exact left_nil htidy.websocket

theorem count_foldl_erase (types subscriptions : List String) (t : String) :
    (types.foldl List.erase subscriptions).count t = subscriptions.count t - types.count t := by
  induction types generalizing subscriptions with
  | nil => rfl
  | cons u types ih =>
      rw [List.foldl_cons, ih, List.count_erase, List.count_cons]
      omega

section

variable (hagrees : Agrees world) (hdata : world.connectedClients socket = some data)
  (h : Left socket data.clientId types world world')

include hdata h

theorem clients_left : world'.connectedClients socket =
      some { data with subscriptions := types.foldl List.erase data.subscriptions } ∧
    ∀ s, s ≠ socket → world'.connectedClients s = world.connectedClients s := by
  constructor
  · rw [h.clients, if_pos rfl, hdata]
    rfl
  · exact fun s hs => (h.clients s).trans (if_neg hs)

/-- The socket is in the room no more, so the type is not on its list. -/
theorem count_le_of_left (hafter : Agrees world') {t : String} (ht : t ∈ types) :
    data.subscriptions.count t ≤ types.count t := by
  obtain ⟨hself, -⟩ := clients_left hdata h
  have hout : ¬world'.InRoom socket t := fun hin => ((h.inRoom socket t).mp hin).2 ⟨rfl, ht⟩
  rw [hafter.rooms socket _ hself t, ← List.count_pos_iff, count_foldl_erase] at hout
  omega

include hagrees

/-- Another socket in the room would need an active row. -/
theorem unlisted_of_left (hafter : Agrees world') {t : String} (ht : t ∈ types) {other : Nat}
    {data' : ClientData} (hne : other ≠ socket)
    (hdata' : world.connectedClients other = some data')
    (hclient : data'.clientId = data.clientId) :
    t ∉ data'.subscriptions := by
  intro hmem
  obtain ⟨-, hother⟩ := clients_left hdata h
  have hin := (h.inRoom other t).mpr
    ⟨(hagrees.rooms other data' hdata' t).mpr hmem, fun hsame => hne hsame.1⟩
  have hactive := (hafter.rows data.clientId t).mpr
    ⟨other, data', (hother other hne).trans hdata', hclient, hin⟩
  exact ((h.active data.clientId t).mp hactive).2 ⟨rfl, ht⟩

/-- Rooms and lists agree if each type was taken from the list as often as it was
    there. -/
theorem rooms_left (hcounts : ∀ t ∈ types, data.subscriptions.count t ≤ types.count t)
    {s : Nat} {d : ClientData} (hd : world'.connectedClients s = some d) (t : String) :
    world'.InRoom s t ↔ t ∈ d.subscriptions := by
  obtain ⟨hself, hother⟩ := clients_left hdata h
  refine (h.inRoom s t).trans ?_
  by_cases hs : s = socket
  · subst hs
    cases hself.symm.trans hd
    -- What the list still has, against what the room had.
    have hlist : t ∈ types.foldl List.erase data.subscriptions ↔
        0 < data.subscriptions.count t - types.count t := by
      rw [← count_foldl_erase, List.count_pos_iff]
    have hbefore : world.InRoom s t ↔ 0 < data.subscriptions.count t := by
      rw [hagrees.rooms s data hdata t, List.count_pos_iff]
    refine Iff.trans ?_ hlist.symm
    rw [hbefore]
    by_cases ht : t ∈ types
    · have hle := hcounts t ht
      simp only [ht, and_self, not_true_eq_false, and_false, false_iff]
      omega
    · have hzero := List.count_eq_zero.mpr ht
      simp only [ht, and_false, not_false_eq_true, and_true, hzero, Nat.sub_zero]
  · rw [hother s hs] at hd
    simp only [hs, false_and, not_false_eq_true, and_true]
    exact hagrees.rooms s d hd t

/-- Rows and rooms agree if no other socket of the client has the types on its list. -/
theorem rows_left (hunlisted : ∀ t ∈ types, ∀ other data', other ≠ socket →
      world.connectedClients other = some data' → data'.clientId = data.clientId →
      t ∉ data'.subscriptions) (c t : String) :
    Active world'.eventSubscriptions c t ↔ world'.Listens c t := by
  obtain ⟨hself, hother⟩ := clients_left hdata h
  rw [h.active, hagrees.rows]
  constructor
  · rintro ⟨⟨s, d, hd, hclient, hin⟩, hnot⟩
    by_cases hs : s = socket
    · subst hs
      cases hdata.symm.trans hd
      exact ⟨s, _, hself, hclient,
        (h.inRoom s t).mpr ⟨hin, fun hsame => hnot ⟨hclient.symm, hsame.2⟩⟩⟩
    · exact ⟨s, d, (hother s hs).trans hd, hclient,
        (h.inRoom s t).mpr ⟨hin, fun hsame => hs hsame.1⟩⟩
  · -- Who still listens is not the socket with one of the types, nor another with them.
    rintro ⟨s, d, hd, hclient, hin⟩
    obtain ⟨hin, hnot⟩ := (h.inRoom s t).mp hin
    by_cases hs : s = socket
    · subst hs
      cases hself.symm.trans hd
      exact ⟨⟨s, data, hdata, hclient, hin⟩, fun hsame => hnot ⟨rfl, hsame.2⟩⟩
    · rw [hother s hs] at hd
      refine ⟨⟨s, d, hd, hclient, hin⟩, fun hsame => ?_⟩
      exact hunlisted t hsame.2 s d hs hd (hclient.trans hsame.1)
        ((hagrees.rooms s d hd t).mp hin)

/-- Rooms, lists and rows agree after unsubscribing exactly if each type was taken
    from the list as often as it was there, and from the list of no other socket. -/
theorem agrees_left_iff :
    Agrees world' ↔ ∀ t ∈ types, data.subscriptions.count t ≤ types.count t ∧
      ∀ other data', other ≠ socket → world.connectedClients other = some data' →
        data'.clientId = data.clientId → t ∉ data'.subscriptions := by
  constructor
  · intro hafter t ht
    refine ⟨count_le_of_left hdata h hafter ht, fun other data' hne hdata' hclient => ?_⟩
    exact unlisted_of_left hagrees hdata h hafter ht hne hdata' hclient
  · intro hclean
    refine ⟨fun s d hd t => ?_, rows_left hagrees hdata h fun t ht => (hclean t ht).2⟩
    exact rooms_left hagrees hdata h (fun t ht => (hclean t ht).1) hd t

end

/-! ### Connecting and disconnecting -/

/-- The world without a socket. -/
def World.without (world : World) (socket : Nat) : World :=
  (world.setRooms socket []).setClient socket none

theorem inRoom_without {s : Nat} :
    (world.without socket).InRoom s t ↔ world.InRoom s t ∧ s ≠ socket := by
  unfold World.InRoom World.without World.setClient World.setRooms
  dsimp only
  by_cases hs : s = socket
  · subst hs
    rw [Function.update_self]
    exact ⟨fun hno => absurd hno List.not_mem_nil, fun h => absurd rfl h.2⟩
  · rw [Function.update_of_ne hs]
    exact ⟨fun h => ⟨h, hs⟩, And.left⟩

theorem tidy_without (htidy : Tidy world) (socket : Nat) : Tidy (world.without socket) where
  numbered s hs := by
    rw [World.without, connectedClients_setClient, Function.update_apply]
    split
    · rfl
    · exact htidy.numbered s hs
  apart s hs := by
    refine (Function.update_apply ..).trans ?_
    split
    · rfl
    · next hne =>
        rw [World.without, connectedClients_setClient, Function.update_of_ne hne] at hs
        exact htidy.apart s hs
  unique := htidy.unique
  websocket := htidy.websocket

/-- Rooms, lists and rows agree after disconnecting exactly if the types on the
    list of the socket are on the list of another one. -/
theorem agrees_disconnect_iff (hagrees : Agrees world)
    (hdata : world.connectedClients socket = some data) :
    Agrees (world.without socket) ↔ ∀ t ∈ data.subscriptions, ∃ other data', other ≠ socket ∧
      world.connectedClients other = some data' ∧ data'.clientId = data.clientId ∧
      t ∈ data'.subscriptions := by
  have hother : ∀ s, s ≠ socket →
      (world.without socket).connectedClients s = world.connectedClients s :=
    fun s hs => Function.update_of_ne hs ..
  have hself : (world.without socket).connectedClients socket = none := Function.update_self ..
  have hne : ∀ s d, (world.without socket).connectedClients s = some d → s ≠ socket := by
    rintro s d hd rfl
    exact nomatch hself.symm.trans hd
  constructor
  · -- The row has stayed active, so somebody else listens.
    intro hafter t ht
    have hactive := (hagrees.rows data.clientId t).mpr
      ⟨socket, data, hdata, rfl, (hagrees.rooms socket data hdata t).mpr ht⟩
    obtain ⟨s, d, hd, hclient, hin⟩ := (hafter.rows data.clientId t).mp hactive
    have hs := hne s d hd
    exact ⟨s, d, hs, (hother s hs).symm.trans hd, hclient, (hafter.rooms s d hd t).mp hin⟩
  · intro hclean
    refine ⟨fun s d hd t => inRoom_without.trans ?_, fun c t => (hagrees.rows c t).trans ?_⟩
    · have hs := hne s d hd
      rw [hother s hs] at hd
      exact (and_iff_left hs).trans (hagrees.rooms s d hd t)
    · constructor
      · rintro ⟨s, d, hd, rfl, hin⟩
        by_cases hs : s = socket
        · subst hs
          cases hdata.symm.trans hd
          -- Another socket of the client listens in its place.
          obtain ⟨other, data', hne', hdata', hclient, hmem⟩ :=
            hclean t ((hagrees.rooms s data hdata t).mp hin)
          exact ⟨other, data', (hother other hne').trans hdata', hclient,
            inRoom_without.mpr ⟨(hagrees.rooms other data' hdata' t).mpr hmem, hne'⟩⟩
        · exact ⟨s, d, (hother s hs).trans hd, rfl, inRoom_without.mpr ⟨hin, hs⟩⟩
      · rintro ⟨s, d, hd, hclient, hin⟩
        have hs := hne s d hd
        exact ⟨s, d, (hother s hs).symm.trans hd, hclient, (inRoom_without.mp hin).1⟩

/-- Sockets that are not connected are in no room. -/
theorem without_of_none (htidy : Tidy world) (h : world.connectedClients socket = none) :
    world.without socket = world := by
  have hrooms : Function.update world.rooms socket [] = world.rooms := by
    rw [← htidy.apart socket h, Function.update_eq_self]
  have hclients : Function.update world.connectedClients socket none = world.connectedClients := by
    rw [← h, Function.update_eq_self]
  unfold World.without World.setClient World.setRooms
  dsimp only
  rw [hrooms, hclients]

theorem eval_disconnect (htidy : Tidy world) (socket : Nat) :
    (disconnect socket).eval world = (.ok (), world.without socket) := by
  cases hdata : world.connectedClients socket with
  | some data =>
      have hget : (connectedClients.get socket).eval (world.setRooms socket []) =
          (.ok (some data), world.setRooms socket []) :=
        congrArg (fun found => (Except.ok found, world.setRooms socket [])) hdata
      have hleave : (client.leaveAll socket).eval world = (.ok (), world.setRooms socket []) := rfl
      exact (eval_bind_ok hleave).trans (eval_bind_ok hget)
  | none =>
      -- A socket that was never greeted is in no room.
      have hget : (connectedClients.get socket).eval (world.setRooms socket []) =
          (.ok none, world.setRooms socket []) :=
        congrArg (fun found => (Except.ok found, world.setRooms socket [])) hdata
      have hleave : (client.leaveAll socket).eval world = (.ok (), world.setRooms socket []) := rfl
      refine (eval_bind_ok hleave).trans ((eval_bind_ok hget).trans ?_)
      have hrooms : world.setRooms socket [] = world := by
        rw [World.setRooms, ← htidy.apart socket hdata, Function.update_eq_self]
      rw [without_of_none htidy hdata, hrooms]
      rfl

/-! ### Events -/

/-- The world with one more connection. -/
def World.accepted (world : World) : World :=
  { world with connections := world.connections + 1 }

theorem tidy_accepted (htidy : Tidy world) : Tidy world.accepted where
  numbered s hs := htidy.numbered s (Nat.le_of_succ_le hs)
  apart := htidy.apart
  unique := htidy.unique
  websocket := htidy.websocket

/-- The new socket has a client, and is in the room of the client. -/
def World.greeted (world : World) (clientId : String) : World :=
  (world.accepted.setClient world.connections (some ⟨clientId, []⟩)).setRooms world.connections
    (clientRoom clientId :: world.rooms world.connections)

theorem greeted_self (clientId : String) :
    (world.greeted clientId).connectedClients world.connections = some ⟨clientId, []⟩ :=
  Function.update_self ..

theorem greeted_of_ne {s : Nat} (hs : s ≠ world.connections) (clientId : String) :
    (world.greeted clientId).connectedClients s = world.connectedClients s :=
  Function.update_of_ne hs ..

/-- The new socket was in no room. -/
theorem rooms_fresh (htidy : Tidy world) : world.rooms world.connections = [] :=
  htidy.apart _ (htidy.numbered _ (Nat.le_refl _))

/-- The room of a client is the room of no type. -/
theorem inRoom_greeted {s : Nat} {t : String} (htidy : Tidy world) (clientId : String) :
    (world.greeted clientId).InRoom s t ↔ world.InRoom s t := by
  unfold World.InRoom
  by_cases hs : s = world.connections
  · have hroom : (world.greeted clientId).rooms s = [clientRoom clientId] := by
      rw [hs]
      refine (Function.update_self ..).trans ?_
      rw [rooms_fresh htidy]
    rw [hroom, hs, rooms_fresh htidy, List.mem_singleton]
    simp only [eventRoom_ne_clientRoom, List.not_mem_nil]
  · have hroom : (world.greeted clientId).rooms s = world.rooms s := Function.update_of_ne hs ..
    rw [hroom]

theorem tidy_greeted (htidy : Tidy world) (clientId : String) :
    Tidy (world.greeted clientId) where
  numbered s hs := by
    have hne : s ≠ world.connections := Nat.ne_of_gt (Nat.lt_of_succ_le hs)
    exact (greeted_of_ne hne clientId).trans (htidy.numbered s (Nat.le_of_succ_le hs))
  apart s hs := by
    have hne : s ≠ world.connections := by
      rintro rfl
      exact nomatch (greeted_self clientId).symm.trans hs
    rw [greeted_of_ne hne] at hs
    exact (Function.update_of_ne hne ..).trans (htidy.apart s hs)
  unique := htidy.unique
  websocket := htidy.websocket

/-- The new socket is subscribed to nothing. -/
theorem agrees_greeted (htidy : Tidy world) (hagrees : Agrees world) (clientId : String) :
    Agrees (world.greeted clientId) where
  rooms s d hd t := by
    refine (inRoom_greeted htidy clientId).trans ?_
    by_cases hs : s = world.connections
    · -- The number of the new socket was not used before, so it is in no room.
      subst hs
      cases (greeted_self clientId).symm.trans hd
      rw [World.InRoom, rooms_fresh htidy]
      exact iff_of_false List.not_mem_nil List.not_mem_nil
    · exact hagrees.rooms s d ((greeted_of_ne hs clientId).symm.trans hd) t
  rows c t := by
    refine (hagrees.rows c t).trans ⟨?_, ?_⟩
    · rintro ⟨s, d, hd, hclient, hroom⟩
      have hs : s ≠ world.connections := by
        rintro rfl
        exact nomatch hd.symm.trans (htidy.numbered _ (Nat.le_refl _))
      exact ⟨s, d, (greeted_of_ne hs clientId).trans hd, hclient,
        (inRoom_greeted htidy clientId).mpr hroom⟩
    · rintro ⟨s, d, hd, hclient, hroom⟩
      rw [inRoom_greeted htidy clientId] at hroom
      have hs : s ≠ world.connections := by
        rintro rfl
        rw [World.InRoom, rooms_fresh htidy] at hroom
        exact absurd hroom List.not_mem_nil
      exact ⟨s, d, (greeted_of_ne hs clientId).symm.trans hd, hclient, hroom⟩

/-- Connecting keeps rooms, lists and rows together. -/
theorem sound_connect (htidy : Tidy world) (hagrees : Agrees world) (clientId : Option String) :
    Tidy (step world (.connect clientId)).2 ∧ Agrees (step world (.connect clientId)).2 := by
  cases hgiven : clientId.filter (· ≠ "") with
  | none =>
      -- Without a client id the socket is disconnected at once.
      have hnone : world.accepted.connectedClients world.connections = none :=
        htidy.numbered world.connections (Nat.le_refl _)
      have hhandled : (handleConnection world.connections clientId).eval world.accepted =
          (.ok (), world.accepted) := by
        rw [handleConnection, hgiven]
        refine (eval_disconnect (tidy_accepted htidy) world.connections).trans ?_
        rw [without_of_none (tidy_accepted htidy) hnone]
      have hstep : step world (.connect clientId) = (.ok none, world.accepted) :=
        eval_bind_ok hhandled
      rw [hstep]
      exact ⟨tidy_accepted htidy, hagrees.rooms, hagrees.rows⟩
  | some cid =>
      have hhandled : (handleConnection world.connections clientId).eval world.accepted =
          (.ok (), world.greeted cid) := by
        rw [handleConnection, hgiven]
        rfl
      have hstep : step world (.connect clientId) = (.ok none, world.greeted cid) :=
        eval_bind_ok hhandled
      rw [hstep]
      exact ⟨tidy_greeted htidy cid, agrees_greeted htidy hagrees cid⟩

theorem eval_handleMessage {body : String → String → Service Unit} {eventTypes : List String}
    {answer : Except String Unit} (hdata : world.connectedClients socket = some data)
    (hbody : (each eventTypes (body data.clientId)).eval world = (answer, world')) :
    ∃ response, (handleMessage socket eventTypes body).eval world = (.ok response, world') := by
  have hget : (connectedClients.get socket).eval world = (.ok (some data), world) :=
    congrArg (fun found => (Except.ok found, world)) hdata
  rw [handleMessage, bind_eq, eval_bind_ok hget]
  dsimp only
  rw [eval_rescue, bind_eq]
  -- An error becomes a response as well.
  cases answer with
  | ok done =>
      rw [eval_bind_ok hbody]
      exact ⟨_, rfl⟩
  | error message =>
      rw [eval_bind_error hbody]
      exact ⟨_, rfl⟩

theorem eval_handleMessage_none {body : String → String → Service Unit} {eventTypes : List String}
    (hdata : world.connectedClients socket = none) :
    (handleMessage socket eventTypes body).eval world =
      (.ok (.failure "Client not authenticated"), world) := by
  have hget : (connectedClients.get socket).eval world = (.ok none, world) :=
    congrArg (fun found => (Except.ok found, world)) hdata
  exact eval_bind_ok hget

/-- Subscribing to types keeps rooms, lists and rows together. -/
theorem sound_subscribes (htidy : Tidy world) (hagrees : Agrees world)
    (hserves : world.Serves socket clientId) (eventTypes : List String) :
    ∃ world', (each eventTypes (subscribe socket clientId)).eval world = (.ok (), world') ∧
      Tidy world' ∧ Agrees world' := by
  induction eventTypes generalizing world with
  | nil => exact ⟨world, rfl, htidy, hagrees⟩
  | cons t eventTypes ih =>
      obtain ⟨world', hone, htidy', hagrees', hserves'⟩ :=
        sound_subscribe htidy hagrees hserves t
      obtain ⟨world'', hrest, hsound⟩ := ih htidy' hagrees' hserves'
      exact ⟨world'', (eval_bind_ok hone).trans hrest, hsound⟩

/-- One event leaves things tidy, and rooms, lists and rows together exactly if it
    is clean. -/
theorem sound_step (htidy : Tidy world) (hagrees : Agrees world) (event : Event) :
    Tidy (step world event).2 ∧ (Agrees (step world event).2 ↔ event.Clean world) := by
  cases event with
  | connect clientId =>
      obtain ⟨htidy', hagrees'⟩ := sound_connect htidy hagrees clientId
      exact ⟨htidy', iff_of_true hagrees' trivial⟩
  | subscribe socket eventTypes =>
      cases hdata : world.connectedClients socket with
      | none =>
          have hstep : (step world (.subscribe socket eventTypes)).2 = world :=
            congrArg Prod.snd (eval_bind_ok (eval_handleMessage_none hdata))
          rw [hstep]
          exact ⟨htidy, iff_of_true hagrees trivial⟩
      | some data =>
          obtain ⟨world', hall, htidy', hagrees'⟩ :=
            sound_subscribes htidy hagrees ⟨data, hdata, rfl⟩ eventTypes
          obtain ⟨response, hhandled⟩ := eval_handleMessage hdata hall
          have hstep : (step world (.subscribe socket eventTypes)).2 = world' :=
            congrArg Prod.snd (eval_bind_ok hhandled)
          rw [hstep]
          exact ⟨htidy', iff_of_true hagrees' trivial⟩
  | unsubscribe socket eventTypes =>
      cases hdata : world.connectedClients socket with
      | none =>
          have hstep : (step world (.unsubscribe socket eventTypes)).2 = world :=
            congrArg Prod.snd (eval_bind_ok (eval_handleMessage_none hdata))
          rw [hstep]
          refine ⟨htidy, iff_of_true hagrees fun data hsome => ?_⟩
          exact nomatch hdata.symm.trans hsome
      | some data =>
          obtain ⟨answer, world', hall, hleft⟩ :=
            left_unsubscribe htidy hdata data.clientId eventTypes
          obtain ⟨response, hhandled⟩ := eval_handleMessage hdata hall
          have hstep : (step world (.unsubscribe socket eventTypes)).2 = world' :=
            congrArg Prod.snd (eval_bind_ok hhandled)
          rw [hstep, agrees_left_iff hagrees hdata hleft]
          refine ⟨tidy_left htidy hdata hleft, fun h data' hdata' => ?_, fun h => h data hdata⟩
          cases hdata.symm.trans hdata'
          exact h
  -- A disconnect changes no row.
  | disconnect socket =>
      have hstep : (step world (.disconnect socket)).2 = world.without socket :=
        congrArg Prod.snd (eval_bind_ok (eval_disconnect htidy socket))
      rw [hstep]
      refine ⟨tidy_without htidy socket, ?_⟩
      cases hdata : world.connectedClients socket with
      | none =>
          rw [without_of_none htidy hdata]
          exact iff_of_true hagrees fun data hsome => nomatch hdata.symm.trans hsome
      | some data =>
          rw [agrees_disconnect_iff hagrees hdata]
          refine ⟨fun h data' hdata' => ?_, fun h => h data hdata⟩
          cases hdata.symm.trans hdata'
          exact h

end

/-- Rooms, lists and rows agree after every event of a run exactly if every event
    was clean. -/
theorem subscriptions_agree_iff (events : List Event) :
    Along step (fun _ _ _ later => Agrees later) events {} ↔
      Along step (fun event before _ _ => event.Clean before) events {} := by
  -- Nobody is connected, and there are no rows.
  have hstart : Tidy {} ∧ Agrees {} := by
    refine ⟨⟨fun _ _ => rfl, fun _ _ => rfl, List.nodup_nil, fun _ h => nomatch h⟩,
      ⟨(fun _ _ h => nomatch h), fun c t => ⟨?_, ?_⟩⟩⟩
    · rintro ⟨_, h, -⟩
      exact nomatch h
    · rintro ⟨_, _, h, -⟩
      exact nomatch h
  refine along_iff (I := fun world => Tidy world ∧ Agrees world) (fun event world h => ?_)
    (fun event world h hclean => ?_) hstart
  · exact (sound_step h.1 h.2 event).2
  · obtain ⟨htidy, hiff⟩ := sound_step h.1 h.2 event
    exact ⟨htidy, hiff.mpr hclean⟩

/-- The row of a client stays active when its only socket disconnects. -/
theorem rows_outlive_sockets : ¬Along step (fun _ _ _ later => Agrees later)
    [.connect (some "client"), .subscribe 0 ["transfer"], .disconnect 0] {} := by
  intro h
  have hactive : Active (after step
      [.connect (some "client"), .subscribe 0 ["transfer"], .disconnect 0]
      {}).eventSubscriptions "client" "transfer" :=
    ⟨⟨"client", "transfer", .WEBSOCKET, .ACTIVE⟩, by decide +kernel, rfl, rfl, rfl, rfl⟩
  obtain ⟨socket, data, hdata, -⟩ := (h.2.2.1.rows "client" "transfer").mp hactive
  -- The only socket there was is gone, while the row of the client is active.
  have hnone : (after step
      [.connect (some "client"), .subscribe 0 ["transfer"], .disconnect 0] {}).connectedClients
        socket = none := by
    cases socket with
    | zero => rfl
    | succ n => rfl
  exact nomatch hdata.symm.trans hnone

end Events

end SvmCourse
