import Mathlib.Data.List.Nodup
import SvmCourse.Core.Since
import SvmCourse.Events.Subscriptions

/-!
# Rooms

A client that subscribes is put into the room of each type, and a client that
unsubscribes is taken out again. The handlers wait for the table between any two of
their steps, so sockets connect, send messages and disconnect at the same time.

Whether a socket is in a room is changed by its own calls only. The number of a socket
is given once, so a connection that is turned away takes no other socket out of its
rooms. So when a subscription has been acknowledged the socket is in the rooms, and it
stays there until it sends for the opposite or disconnects.

## Main definitions

* `program`: The calls, with what is acknowledged.
* `Does`: What an access of a call may change.
* `Numbered`: Every socket there is was admitted by one call.
* `Undisturbed`: No call of a kind is under way, and none is started.

## Theorems

* `call_follows`: What the accesses of the calls change.
* `number_inj`: Numbers are given once.
* `inside_of_acknowledged`: A socket is in the rooms that it has subscribed to.
* `outside_of_acknowledged`: A socket is out of the rooms that it has unsubscribed from.
-/

namespace SvmCourse

namespace Events

namespace Rooms

open Core Core.Prog Core.Sched Core.Machine

/-! ### Calls -/

/-- Whoever sends a message learns whether it succeeded. -/
def acknowledge : Response → Service Unit
  | .success _ => pure ()
  | .failure error => Prog.raise error

/-- What the gateway does when it is told something, access by access. -/
def program : Event → Service Unit
  | .connect clientId => do
    let socket ← client.accept
    handleConnection socket clientId
  | .subscribe socket eventTypes => do
    let response ← handleSubscribe socket eventTypes
    acknowledge response
  | .unsubscribe socket eventTypes => do
    let response ← handleUnsubscribe socket eventTypes
    acknowledge response
  | .disconnect socket => disconnect socket

/-- The socket of a call. A connection has one when it has been accepted. -/
def socketOf : Event → List (World × World) → Option Nat
  | .connect _, seen => seen.head?.map fun p => p.1.connections
  | .subscribe socket _, _ => some socket
  | .unsubscribe socket _, _ => some socket
  | .disconnect socket, _ => some socket

/-- The event is a connection. -/
def isConnect : Event → Bool
  | .connect _ => true
  | _ => false

/-- A connection with a client is kept. -/
def admits : Event → Bool
  | .connect clientId => (clientId.filter (· ≠ "")).isSome
  | _ => false

/-- The call may take its socket out of the room. -/
def leaves : Event → String → Prop
  | .connect clientId, _ => clientId.filter (· ≠ "") = none
  | .subscribe .., _ => False
  | .unsubscribe _ eventTypes, room => ∃ eventType ∈ eventTypes, room = eventRoom eventType
  | .disconnect _, _ => True

/-- The call may put its socket into the room. -/
def enters : Event → String → Prop
  | .connect _, room => ∃ clientId, room = clientRoom clientId
  | .subscribe _ eventTypes, room => ∃ eventType ∈ eventTypes, room = eventRoom eventType
  | .unsubscribe .., _ => False
  | .disconnect _, _ => False

/-- The socket is known when its message comes. -/
def Welcome : Event → List (World × World) → Prop
  | .subscribe socket _, seen => ∀ p, seen.head? = some p → (p.1.connectedClients socket).isSome
  | .unsubscribe socket _, seen => ∀ p, seen.head? = some p → (p.1.connectedClients socket).isSome
  | _, _ => True

/-- What an access may change: only of its own socket, and of that only what is for
    the call to change. -/
structure Does (event : Event) (seen : List (World × World)) (s t : World) : Prop where
  numbered : t.connections = s.connections + if isConnect event && seen.isEmpty then 1 else 0
  others : ∀ n, socketOf event seen ≠ some n →
    t.rooms n = s.rooms n ∧ t.connectedClients n = s.connectedClients n
  clients : ∀ n, socketOf event seen = some n → (t.connectedClients n).isSome →
    (s.connectedClients n).isSome ∨ admits event
  stays : ∀ n room, socketOf event seen = some n → room ∈ s.rooms n →
    room ∈ t.rooms n ∨ leaves event room
  comes : ∀ n room, socketOf event seen = some n → room ∈ t.rooms n →
    room ∈ s.rooms n ∨ enters event room
  welcome : Welcome event seen

/-- A message that is acknowledged has done what it is for, for each type. -/
def Done : Event → List (World × World) → Except String Unit → Prop
  | .subscribe socket eventTypes, seen, .ok _ =>
    (∃ p, seen.head? = some p ∧ (p.1.connectedClients socket).isSome) ∧
      ∀ eventType ∈ eventTypes, ∃ q ∈ seen, eventRoom eventType ∈ q.2.rooms socket
  | .unsubscribe socket eventTypes, seen, .ok _ =>
    ∀ eventType ∈ eventTypes, ∃ q ∈ seen, eventRoom eventType ∉ q.2.rooms socket
  | _, _, _ => True

theorem rooms_setRooms (s : World) (n : Nat) (rooms : List String) :
    (s.setRooms n rooms).rooms n = rooms := Function.update_self ..

theorem client_setClient (s : World) (n : Nat) (data : Option ClientData) :
    (s.setClient n data).connectedClients n = data := Function.update_self ..

section

variable {event : Event} {seen : List (World × World)} {s : World}

/-- An access that looks something up, or writes rows. -/
theorem does_rows {t : World} (hfirst : (isConnect event && seen.isEmpty) = false)
    (hwelcome : Welcome event seen) (hconnections : t.connections = s.connections)
    (hrooms : t.rooms = s.rooms) (hclients : t.connectedClients = s.connectedClients) :
    Does event seen s t where
  numbered := by rw [hfirst, hconnections]; rfl
  others n _ := ⟨congrFun hrooms n, congrFun hclients n⟩
  clients n _ h := Or.inl (hclients ▸ h)
  stays n room _ h := Or.inl (hrooms ▸ h)
  comes n room _ h := Or.inl (hrooms ▸ h)
  welcome := hwelcome

/-- An access to the rooms of the own socket. -/
theorem does_rooms {n : Nat} {rooms : List String} (hsocket : socketOf event seen = some n)
    (hfirst : (isConnect event && seen.isEmpty) = false) (hwelcome : Welcome event seen)
    (hstays : ∀ room ∈ s.rooms n, room ∈ rooms ∨ leaves event room)
    (hcomes : ∀ room ∈ rooms, room ∈ s.rooms n ∨ enters event room) :
    Does event seen s (s.setRooms n rooms) := by
  have hself : ∀ m, socketOf event seen = some m → m = n := fun m hm =>
    Option.some.inj (hm.symm.trans hsocket)
  refine ⟨by rw [hfirst]; rfl, fun m hm => ⟨?_, rfl⟩, fun m _ h => Or.inl h, ?_, ?_, hwelcome⟩
  · -- The rooms of the others stay.
    refine Function.update_of_ne ?_ _ _
    rintro rfl
    exact hm hsocket
  · intro m room hm hroom
    obtain rfl := hself m hm
    rw [rooms_setRooms]
    exact hstays room hroom
  · intro m room hm hroom
    obtain rfl := hself m hm
    rw [rooms_setRooms] at hroom
    exact hcomes room hroom

/-- An access to what is kept of the own socket. -/
theorem does_client {n : Nat} {data : Option ClientData} (hsocket : socketOf event seen = some n)
    (hfirst : (isConnect event && seen.isEmpty) = false) (hwelcome : Welcome event seen)
    (hclients : data.isSome → (s.connectedClients n).isSome ∨ admits event) :
    Does event seen s (s.setClient n data) := by
  refine ⟨by rw [hfirst]; rfl, fun m hm => ⟨rfl, ?_⟩, fun m hm h => ?_, fun m room _ h => Or.inl h,
    fun m room _ h => Or.inl h, hwelcome⟩
  · refine Function.update_of_ne ?_ _ _
    rintro rfl
    exact hm hsocket
  · obtain rfl := Option.some.inj (hm.symm.trans hsocket)
    rw [client_setClient] at h
    exact hclients h

/-- The call has its socket, and nothing is missing for its accesses. -/
structure Serves (event : Event) (n : Nat) (seen : List (World × World)) : Prop where
  socket : socketOf event seen = some n
  later : (isConnect event && seen.isEmpty) = false
  welcome : Welcome event seen
  begun : seen ≠ []

variable {n : Nat}

/-- It stays so. -/
theorem Serves.next (h : Serves event n seen) (q : World × World) :
    Serves event n (seen ++ [q]) := by
  -- The first access gave the socket its number, and it stays the first.
  have hhead : (seen ++ [q]).head? = seen.head? := by
    rw [List.head?_append_of_ne_nil _ h.begun]
  have hempty : (seen ++ [q]).isEmpty = seen.isEmpty := by
    rw [List.isEmpty_eq_false_iff.mpr h.begun, List.isEmpty_eq_false_iff]
    exact List.append_ne_nil_of_left_ne_nil h.begun _
  refine ⟨?_, ?_, ?_, List.append_ne_nil_of_left_ne_nil h.begun _⟩
  · rw [← h.socket]
    cases event with
    | connect clientId => simp only [socketOf, hhead]
    | subscribe socket eventTypes => rfl
    | unsubscribe socket eventTypes => rfl
    | disconnect socket => rfl
  · rw [hempty]
    exact h.later
  · have hwelcome := h.welcome
    cases event with
    | connect clientId => trivial
    | subscribe socket eventTypes => simpa only [Welcome, hhead] using hwelcome
    | unsubscribe socket eventTypes => simpa only [Welcome, hhead] using hwelcome
    | disconnect socket => trivial

/-- Accesses of a call that has its socket: what is left of it is followed from there. -/
theorem follows_next {α : Type} {act : World → α × World}
    {R : List (World × World) → Except String α → Prop} (h : Serves event n seen)
    (hdoes : ∀ s, Does event seen s (act s).2)
    (hR : ∀ s, Serves event n (seen ++ [(s, (act s).2)]) →
      R (seen ++ [(s, (act s).2)]) (.ok (act s).1)) :
    (query act).Follows (watching (Does event)) R seen :=
  follows_watching fun s => ⟨hdoes s, hR s (h.next _)⟩

/-- What is kept of a socket is deleted. -/
theorem handleDisconnect_follows (h : Serves event n seen) :
    (handleDisconnect n).Follows (watching (Does event)) (fun _ _ => True) seen := by
  refine follows_bind (follows_next h (fun s => does_rows h.later h.welcome rfl rfl rfl)
    fun s h' => ?_)
  change ((if (s.connectedClients n).isSome = true then _ else _ : Service Unit)).Follows _ _ _
  split
  · exact follows_next h' (fun s => does_client h'.socket h'.later h'.welcome fun h => by cases h)
      fun _ _ => trivial
  · exact trivial

theorem disconnect_follows (h : Serves event n seen) (hleaves : ∀ room, leaves event room) :
    (disconnect n).Follows (watching (Does event)) (fun _ _ => True) seen :=
  follows_bind (follows_next h (fun s => does_rooms h.socket h.later h.welcome
    (fun room _ => Or.inr (hleaves room)) fun room hroom => by cases hroom)
    fun _ h' => handleDisconnect_follows h')

theorem handleConnection_follows (clientId : Option String)
    (h : Serves (.connect clientId) n seen) :
    (handleConnection n clientId).Follows (watching (Does (.connect clientId)))
      (fun _ _ => True) seen := by
  unfold handleConnection
  split
  · next hnone => exact disconnect_follows h fun _ => hnone
  · next client hsome =>
      have hadmits : admits (.connect clientId) = true := by
        rw [admits, hsome]
        rfl
      refine follows_bind (follows_next h (fun s => does_client h.socket h.later h.welcome
        fun _ => Or.inr hadmits) fun s h' => ?_)
      refine follows_next h' (fun s => does_rooms h'.socket h'.later h'.welcome
        (fun room hroom => Or.inl (List.mem_cons_of_mem _ hroom)) fun room hroom => ?_)
        fun _ _ => trivial
      -- The one room that is new is that of the client.
      rcases List.mem_cons.mp hroom with rfl | hroom
      · exact Or.inr ⟨client, rfl⟩
      · exact Or.inl hroom

theorem createSubscription_follows (h : Serves event n seen) (dto : CreateEventSubscriptionDto) :
    (createSubscription dto).Follows (watching (Does event))
      (fun seen' _ => Serves event n seen' ∧ ∃ more, seen' = seen ++ more) seen := by
  refine follows_bind (follows_next h (fun s => does_rows h.later h.welcome rfl rfl rfl)
    fun s h' => ?_)
  -- A row is saved or inserted.
  dsimp only
  split
  · exact follows_next h' (fun s => does_rows h'.later h'.welcome rfl rfl rfl)
      fun s h'' => ⟨h'', _, List.append_assoc ..⟩
  · exact follows_next h' (fun s => does_rows h'.later h'.welcome rfl rfl rfl)
      fun s h'' => ⟨h'', _, List.append_assoc ..⟩

theorem updateSubscription_follows (h : Serves event n seen) (clientId eventType : String)
    (status : SubscriptionStatus) :
    (updateSubscriptionByClientAndType clientId eventType status).Follows (watching (Does event))
      (fun seen' _ => Serves event n seen' ∧ ∃ more, seen' = seen ++ more) seen := by
  refine follows_bind (follows_next h (fun s => does_rows h.later h.welcome rfl rfl rfl)
    fun s h' => ?_)
  refine follows_bind (follows_demand (fun found _ => ?_) fun _ => ⟨h', _, rfl⟩)
  exact follows_next h' (fun s => does_rows h'.later h'.welcome rfl rfl rfl)
    fun s h'' => ⟨h'', _, List.append_assoc ..⟩

/-- What a message has done when the body for one of its types succeeds. -/
structure Handled (event : Event) (n : Nat) (seen : List (World × World)) (P : World → Prop)
    (seen' : List (World × World)) : Prop where
  serves : Serves event n seen'
  longer : ∃ more, seen' = seen ++ more
  done : ∃ q ∈ seen', P q.2

/-- The list that is kept for a socket is changed last. -/
theorem modify_follows {P : World → Prop} {more : List (World × World)} {q : World × World}
    (h : Serves event n (seen ++ more ++ [q])) (hP : P q.2)
    (change : List String → List String) :
    (connectedClients.modify n change).Follows (watching (Does event))
      (fun seen' result => result = .ok () → Handled event n seen P seen')
      (seen ++ more ++ [q]) := by
  refine follows_next h (fun s => does_client h.socket h.later h.welcome fun hdata => ?_)
    fun t h' _ => ⟨h', ⟨_, by rw [List.append_assoc, List.append_assoc]⟩, q, ?_, hP⟩
  · rw [Option.isSome_map] at hdata
    exact Or.inl hdata
  · exact List.mem_append_left _ (List.mem_append_right _ (List.mem_singleton_self _))

theorem subscribe_follows {eventTypes : List String} (h : Serves (.subscribe n eventTypes) n seen)
    (clientId : String) {eventType : String} (hmem : eventType ∈ eventTypes) :
    (subscribe n clientId eventType).Follows (watching (Does (.subscribe n eventTypes)))
      (fun seen' result => result = .ok () → Handled (.subscribe n eventTypes) n seen
        (fun world => eventRoom eventType ∈ world.rooms n) seen') seen := by
  refine follows_bind (follows_mono (createSubscription_follows h _) ?_)
  rintro seen₁ result ⟨h₁, more, rfl⟩
  cases result with
  -- A subscription that is refused joins no room.
  | error e => exact fun hok => by cases hok
  | ok u =>
      refine follows_bind (follows_next h₁ (fun s => does_rooms h₁.socket h₁.later h₁.welcome
        (fun room hroom => Or.inl (List.mem_cons_of_mem _ hroom)) fun room hroom => ?_) ?_)
      · rcases List.mem_cons.mp hroom with rfl | hroom
        · exact Or.inr ⟨eventType, hmem, rfl⟩
        · exact Or.inl hroom
      · refine fun s h₂ => modify_follows h₂ ?_ _
        change eventRoom eventType ∈ (s.setRooms n (eventRoom eventType :: s.rooms n)).rooms n
        rw [rooms_setRooms]
        exact List.mem_cons_self ..

theorem unsubscribe_follows {eventTypes : List String}
    (h : Serves (.unsubscribe n eventTypes) n seen) (clientId : String) {eventType : String}
    (hmem : eventType ∈ eventTypes) :
    (unsubscribe n clientId eventType).Follows (watching (Does (.unsubscribe n eventTypes)))
      (fun seen' result => result = .ok () → Handled (.unsubscribe n eventTypes) n seen
        (fun world => eventRoom eventType ∉ world.rooms n) seen') seen := by
  refine follows_bind (follows_mono (updateSubscription_follows h _ _ _) ?_)
  rintro seen₁ result ⟨h₁, more, rfl⟩
  cases result with
  | error e => exact fun hok => by cases hok
  | ok u =>
      refine follows_bind (follows_next h₁ (fun s => does_rooms h₁.socket h₁.later h₁.welcome
        (fun room hroom => ?_) fun room hroom => Or.inl (List.mem_filter.mp hroom).1) ?_)
      · -- Only the room of the type is left.
        by_cases hsame : room = eventRoom eventType
        · exact Or.inr ⟨eventType, hmem, hsame⟩
        · exact Or.inl (List.mem_filter.mpr ⟨hroom, decide_eq_true hsame⟩)
      · refine fun s h₂ => modify_follows h₂ ?_ _
        change eventRoom eventType ∉ (s.setRooms n ((s.rooms n).filter _)).rooms n
        rw [rooms_setRooms, List.mem_filter]
        exact fun hroom => of_decide_eq_true hroom.2 rfl

/-- A message looks up its socket, and handles one type after the other. -/
theorem message_follows {eventTypes : List String} {body : String → String → Service Unit}
    {P : String → World → Prop} (hsocket : ∀ seen, socketOf event seen = some n)
    (hconnect : isConnect event = false)
    (hwelcome : ∀ seen, Welcome event seen ↔
      ∀ p, seen.head? = some p → (p.1.connectedClients n).isSome)
    (hbody : ∀ seen, Serves event n seen → ∀ clientId, ∀ eventType ∈ eventTypes,
      (body clientId eventType).Follows (watching (Does event)) (fun seen' result =>
        result = .ok () → Handled event n seen (P eventType) seen') seen) :
    ((handleMessage n eventTypes body).bind acknowledge).Follows (watching (Does event))
      (fun seen result => result = .ok () →
        (∃ p, seen.head? = some p ∧ (p.1.connectedClients n).isSome) ∧
          ∀ eventType ∈ eventTypes, ∃ q ∈ seen, P eventType q.2) [] := by
  have hfirst : Welcome event [] := (hwelcome []).mpr fun p hp => by cases hp
  refine follows_bind (follows_bind (follows_watching fun s => ⟨?_, ?_⟩))
  · exact does_rows (by rw [hconnect]; rfl) hfirst rfl rfl rfl
  · dsimp only
    split
    · exact fun hok => by cases hok
    · next clientData hsome =>
        have hserves : Serves event n [(s, s)] := by
          refine ⟨hsocket _, by rw [hconnect]; rfl, (hwelcome _).mpr ?_, List.cons_ne_nil _ _⟩
          rintro p ⟨⟩
          exact hsome ▸ rfl
        -- So far the first types are done, and the rest is to come.
        refine follows_rescue (follows_bind (follows_each (J := fun rest seen =>
          Serves event n seen ∧ (∃ more, seen = [(s, s)] ++ more) ∧
            (∀ eventType ∈ rest, eventType ∈ eventTypes) ∧
            ∀ eventType ∈ eventTypes, eventType ∈ rest ∨ ∃ q ∈ seen, P eventType q.2)
          (fun eventType rest seen hJ => ?_) (fun seen hJ => ?_) ?_))
        · obtain ⟨h, ⟨more, rfl⟩, hrest, hdone⟩ := hJ
          refine follows_mono (hbody _ h clientData.clientId eventType
            (hrest eventType (List.mem_cons_self ..))) fun seen' result hresult => ?_
          cases result with
          | error e => exact fun hok => by cases hok
          | ok u =>
              obtain ⟨h', ⟨more', rfl⟩, hthis⟩ := hresult rfl
              refine ⟨h', ⟨more ++ more', List.append_assoc ..⟩,
                fun x hx => hrest x (List.mem_cons_of_mem _ hx), fun x hx => ?_⟩
              rcases hdone x hx with hmem | ⟨q, hq, hP⟩
              · rcases List.mem_cons.mp hmem with rfl | hmem
                · exact Or.inr hthis
                · exact Or.inl hmem
              · exact Or.inr ⟨q, List.mem_append_left _ hq, hP⟩
        · obtain ⟨-, ⟨more, rfl⟩, -, hdone⟩ := hJ
          refine fun _ => ⟨⟨(s, s), rfl, hsome ▸ rfl⟩, fun x hx => ?_⟩
          exact (hdone x hx).resolve_left (List.not_mem_nil)
        · exact ⟨hserves, ⟨[], rfl⟩, fun _ h => h, fun _ h => Or.inl h⟩

/-- The accesses of a call are those that it may make. -/
theorem call_follows (event : Event) :
    (program event).Follows (watching (Does event)) (Done event) [] := by
  cases event with
  | connect clientId =>
      -- The number of the socket is that of the connections there are.
      refine follows_bind (follows_watching fun s => ⟨⟨rfl, fun _ _ => ⟨rfl, rfl⟩, ?_, ?_, ?_,
        trivial⟩, ?_⟩)
      · exact fun m hm => by cases hm
      · exact fun m room hm => by cases hm
      · exact fun m room hm => by cases hm
      · exact follows_mono (handleConnection_follows clientId
          ⟨rfl, rfl, trivial, List.cons_ne_nil _ _⟩) fun _ _ _ => trivial
  | subscribe n eventTypes =>
      refine follows_mono (message_follows (fun _ => rfl) rfl (fun _ => Iff.rfl)
        fun seen h clientId eventType hmem => subscribe_follows h clientId hmem) ?_
      intro seen result hresult
      cases result with
      | error e => trivial
      | ok u => exact hresult rfl
  | unsubscribe n eventTypes =>
      refine follows_mono (message_follows (fun _ => rfl) rfl (fun _ => Iff.rfl)
        fun seen h clientId eventType hmem => unsubscribe_follows h clientId hmem) ?_
      intro seen result hresult
      cases result with
      | error e => trivial
      | ok u => exact (hresult rfl).2
  | disconnect n =>
      -- The first access needs no history.
      refine follows_bind (follows_watching fun s => ⟨?_, ?_⟩)
      · exact does_rooms rfl rfl trivial (fun _ _ => Or.inr trivial)
          fun room hroom => by cases hroom
      · exact handleDisconnect_follows ⟨rfl, rfl, trivial, List.cons_ne_nil _ _⟩

/-! ### Numbers -/

/-- The number that a connection has been given. -/
def number (w : Watched World String Event) : Option Nat :=
  if isConnect w.call then socketOf w.call w.seen else none

/-- Every number is given once, and every socket that is kept was admitted. -/
structure Numbered (r : Recorded World String Event) : Prop where
  distinct : (r.calls.filterMap number).Nodup
  given : ∀ n ∈ r.calls.filterMap number, n < r.store.connections
  known : ∀ n, (r.store.connectedClients n).isSome →
    ∃ w ∈ r.calls, number w = some n ∧ admits w.call

variable {r : Recorded World String Event}

theorem number_live (s : World) (w : Watched World String Event) :
    number (w.live s) = number w := by
  rw [number, call_live, seen_live, number]

theorem numbers_live (s : World) (calls : List (Watched World String Event)) :
    (calls.map (Watched.live s)).filterMap number = calls.filterMap number := by
  rw [List.filterMap_map]
  exact List.filterMap_congr fun w _ => number_live s w

/-- A connection is numbered by its first access, and keeps its number. -/
theorem number_access {rest next : Service Unit} {lived lived' : List World} (q : World × World) :
    number ⟨event, next, seen ++ [q], lived'⟩ =
      if isConnect event && seen.isEmpty then some q.1.connections
      else number ⟨event, rest, seen, lived⟩ := by
  cases event with
  | connect clientId => cases seen <;> rfl
  | subscribe socket eventTypes => rfl
  | unsubscribe socket eventTypes => rfl
  | disconnect socket => rfl

/-- A number that was given stays given. -/
theorem number_record {w : Watched World String Event} (hw : w ∈ r.calls) {m : Nat}
    (hnumber : number w = some m) (move : Move Event) :
    ∃ w' ∈ (record program r move).2.calls, w'.call = w.call ∧ number w' = some m := by
  obtain ⟨i, hi⟩ := List.mem_iff_getElem?.mp hw
  obtain ⟨w', hw', hcall, hseen⟩ := seen_record program move hi
  refine ⟨w', List.mem_of_getElem? hw', hcall, ?_⟩
  unfold number at hnumber ⊢
  rw [hcall]
  split at hnumber
  · next hconnect =>
      rw [if_pos hconnect]
      cases hevent : w.call with
      | connect clientId =>
          rw [hevent] at hnumber
          -- The first access is still the first.
          obtain ⟨p, hp, hm⟩ := Option.map_eq_some_iff.mp hnumber
          have hhead : w'.seen.head? = some p := by
            rcases hseen with hsame | hmore
            · rw [hsame, hp]
            · rw [hmore, List.head?_append, hp]
              rfl
          rw [socketOf, hhead]
          exact congrArg some hm
      | subscribe socket eventTypes =>
          rw [hevent] at hconnect
          cases hconnect
      | unsubscribe socket eventTypes =>
          rw [hevent] at hconnect
          cases hconnect
      | disconnect socket =>
          rw [hevent] at hconnect
          cases hconnect
  · cases hnumber

/-- A call that has only been started has no number. -/
theorem numbers_start (s : World) (calls : List (Watched World String Event)) (call : Event) :
    (calls.map (Watched.live s) ++
      [(⟨call, program call, [], []⟩ : Watched World String Event)]).filterMap number =
        calls.filterMap number := by
  rw [List.filterMap_append, numbers_live]
  cases call <;> exact List.append_nil _

section Access

variable {call : Event} {seen : List (World × World)} {lived : List World}
  {rest next : Service Unit} {before after calls : List (Watched World String Event)} {s t : World}

/-- The first access of a connection gives it a number, and any other access leaves the
    numbers. -/
theorem numbers_access (hdoes : Does call seen s t)
    (hdistinct : ((before ++ ⟨call, rest, seen, lived⟩ :: after).filterMap number).Nodup)
    (hgiven : ∀ n ∈ (before ++ ⟨call, rest, seen, lived⟩ :: after).filterMap number,
      n < s.connections)
    (hcalls : calls = before.map (Watched.live s) ++
      ⟨call, next, seen ++ [(s, t)], lived ++ [s]⟩ :: after.map (Watched.live s)) :
    (calls.filterMap number).Nodup ∧ ∀ n ∈ calls.filterMap number, n < t.connections := by
  subst hcalls
  have hself := @number_access call seen rest next lived (lived ++ [s]) (s, t)
  have hconnections := hdoes.numbered
  by_cases hfirst : (isConnect call && seen.isEmpty) = true
  · -- The number is new, as it is not below the number of connections.
    rw [if_pos hfirst] at hself hconnections
    have hnone : number ⟨call, rest, seen, lived⟩ = none := by
      obtain ⟨-, hempty⟩ := Bool.and_eq_true_iff.mp hfirst
      obtain rfl := List.isEmpty_iff.mp hempty
      cases call <;> rfl
    rw [List.filterMap_append, List.filterMap_cons_none hnone] at hdistinct hgiven
    rw [List.filterMap_append, List.filterMap_cons_some hself, numbers_live, numbers_live,
      hconnections]
    refine ⟨?_, fun n hn => ?_⟩
    · rw [List.nodup_middle, List.nodup_cons]
      exact ⟨fun hmem => Nat.lt_irrefl _ (hgiven _ hmem), hdistinct⟩
    · rcases List.mem_append.mp hn with hn | hn
      · exact Nat.lt_succ_of_lt (hgiven n (List.mem_append_left _ hn))
      · rcases List.mem_cons.mp hn with rfl | hn
        · exact Nat.lt_succ_self _
        · exact Nat.lt_succ_of_lt (hgiven n (List.mem_append_right _ hn))
  · rw [if_neg hfirst] at hself hconnections
    have hnumbers : (before.map (Watched.live s) ++
        ⟨call, next, seen ++ [(s, t)], lived ++ [s]⟩ ::
          after.map (Watched.live s)).filterMap number =
        (before ++ ⟨call, rest, seen, lived⟩ :: after).filterMap number := by
      simp only [List.filterMap_append, List.filterMap_cons, numbers_live, hself]
    rw [hnumbers, hconnections]
    exact ⟨hdistinct, hgiven⟩

/-- What is kept was kept before, or is let in now. -/
theorem known_access (hdoes : Does call seen s t)
    (hmem : ⟨call, next, seen ++ [(s, t)], lived ++ [s]⟩ ∈ calls)
    (hknown : ∀ n, (s.connectedClients n).isSome →
      ∃ w ∈ calls, number w = some n ∧ admits w.call) (n : Nat)
    (hsome : (t.connectedClients n).isSome) : ∃ w ∈ calls, number w = some n ∧ admits w.call := by
  by_cases hsocket : socketOf call seen = some n
  · rcases hdoes.clients n hsocket hsome with hsome | hadmits
    · exact hknown n hsome
    · refine ⟨_, hmem, ?_, hadmits⟩
      cases call with
      | connect clientId =>
          -- The socket has a number, so this is not the first access.
          have hnot : (isConnect (.connect clientId) && seen.isEmpty) = false := by
            cases seen with
            | nil => cases hsocket
            | cons p seen => rfl
          rw [@number_access (.connect clientId) seen next next lived (lived ++ [s]) (s, t),
            if_neg (by rw [hnot]; exact Bool.false_ne_true)]
          exact hsocket
      | subscribe socket eventTypes => cases hadmits
      | unsubscribe socket eventTypes => cases hadmits
      | disconnect socket => cases hadmits
  · rw [(hdoes.others n hsocket).2] at hsome
    exact hknown n hsome

end Access

theorem numbered_record (hfollowed : Followed Does Done r) (h : Numbered r) (m : Move Event) :
    Numbered (record program r m).2 := by
  have hknown : ∀ n, (r.store.connectedClients n).isSome →
      ∃ w ∈ (record program r m).2.calls, number w = some n ∧ admits w.call := by
    intro n hsome
    obtain ⟨w, hw, hnumber, hadmits⟩ := h.known n hsome
    obtain ⟨w', hw', hcall, hnumber'⟩ := number_record hw hnumber m
    exact ⟨w', hw', hnumber', hcall ▸ hadmits⟩
  rcases followed_cases program hfollowed m with hsame | ⟨call, -, hnew⟩ |
    ⟨before, call, rest, seen, lived, after, next, t, -, hcalls, -, hdoes, -, hnew⟩
  · rw [hsame]
    exact h
  · rw [hnew] at hknown ⊢
    refine ⟨?_, ?_, hknown⟩
    · rw [numbers_start]
      exact h.distinct
    · rw [numbers_start]
      exact h.given
  · rw [hnew] at hknown ⊢
    have hdistinct := h.distinct
    have hgiven := h.given
    rw [hcalls] at hdistinct hgiven
    refine ⟨?_, ?_, known_access hdoes (List.mem_append_right _ (List.mem_cons_self ..)) hknown⟩
    · exact (numbers_access hdoes hdistinct hgiven rfl).1
    · exact (numbers_access hdoes hdistinct hgiven rfl).2

/-- Two connections have different numbers. -/
theorem number_inj (h : Numbered r) {v w : Watched World String Event} (hv : v ∈ r.calls)
    (hw : w ∈ r.calls) {n : Nat} (hv' : number v = some n) (hw' : number w = some n) : v = w := by
  have hinj : ∀ calls : List (Watched World String Event), (calls.filterMap number).Nodup →
      v ∈ calls → w ∈ calls → v = w := by
    intro calls hnodup hv hw
    induction calls with
    | nil => cases hv
    | cons u calls ih =>
        -- What has the number of the first one is not among the others.
        have hothers : ∀ x ∈ calls, number x = some n → number u ≠ some n := by
          intro x hx hx' hu
          rw [List.filterMap_cons_some hu, List.nodup_cons] at hnodup
          exact hnodup.1 (List.mem_filterMap.mpr ⟨x, hx, hx'⟩)
        have hrest : (calls.filterMap number).Nodup :=
          hnodup.sublist (List.Sublist.filterMap _ (List.sublist_cons_self u calls))
        rcases List.mem_cons.mp hv with hfirst | hv
        · rcases List.mem_cons.mp hw with hfirst' | hw
          · exact hfirst.trans hfirst'.symm
          · exact absurd (hfirst ▸ hv') (hothers w hw hw')
        · rcases List.mem_cons.mp hw with hfirst | hw
          · exact absurd (hfirst ▸ hw') (hothers v hv hv')
          · exact ih hrest hv hw
  exact hinj r.calls h.distinct hv hw

/-- What holds after every schedule. -/
structure Sound (r : Recorded World String Event) : Prop where
  followed : Followed Does Done r
  numbered : Numbered r

theorem sound_record (h : Sound r) (m : Move Event) : Sound (record program r m).2 :=
  ⟨followed_record call_follows h.followed m, numbered_record h.followed h.numbered m⟩

theorem sound_start : Sound ⟨{}, []⟩ where
  followed w hw := by cases hw
  numbered := ⟨List.nodup_nil, (fun n hn => by cases hn), fun n hn => by cases hn⟩

theorem sound_after (moves : List (Move Event)) : Sound (after (record program) moves ⟨{}, []⟩) :=
  after_invariant (fun m _ _ h => sound_record h m) sound_start
    (along_of_forall (fun _ _ => trivial) moves _)

/-! ### In a room -/

/-- A message or a disconnection that takes the socket out of the room. -/
def takes (n : Nat) (room : String) : Event → Prop
  | .unsubscribe socket eventTypes =>
    socket = n ∧ ∃ eventType ∈ eventTypes, room = eventRoom eventType
  | .disconnect socket => socket = n
  | _ => False

/-- A message that puts the socket into the room. -/
def brings (n : Nat) (room : String) : Event → Prop
  | .subscribe socket eventTypes =>
    socket = n ∧ ∃ eventType ∈ eventTypes, room = eventRoom eventType
  | _ => False

/-- The socket was admitted. -/
def Admitted (n : Nat) (r : Recorded World String Event) : Prop :=
  ∃ w ∈ r.calls, number w = some n ∧ admits w.call

theorem admitted_record (h : Admitted n r) (m : Move Event) :
    Admitted n (record program r m).2 := by
  obtain ⟨w, hw, hnumber, hadmits⟩ := h
  obtain ⟨w', hw', hcall, hnumber'⟩ := number_record hw hnumber m
  exact ⟨w', hw', hnumber', hcall ▸ hadmits⟩

/-- A socket that was admitted stays in a room as long as no call takes it out. -/
theorem member_record (hsound : Sound r) (hadmitted : Admitted n r) {room : String}
    (hquiet : Quiet (takes n room) r) (m : Move Event) (h : room ∈ r.store.rooms n) :
    room ∈ (record program r m).2.store.rooms n := by
  rcases followed_cases program hsound.followed m with hsame | ⟨call, -, hnew⟩ |
    ⟨before, call, rest, seen, lived, after, next, t, -, hcalls, hrest, hdoes, -, hnew⟩
  · rw [hsame]
    exact h
  · rw [hnew]
    exact h
  · rw [hnew]
    have hmem : ⟨call, rest, seen, lived⟩ ∈ r.calls := by
      rw [hcalls]
      exact List.mem_append_right _ (List.mem_cons_self ..)
    -- A call that takes the socket out would have returned.
    have hnot : ¬takes n room call := by
      intro htakes
      rw [hquiet _ hmem htakes] at hrest
      cases hrest
    by_cases hsocket : socketOf call seen = some n
    · refine (hdoes.stays n room hsocket h).resolve_right fun hleaves => ?_
      cases call with
      | connect clientId =>
          -- The socket is that of the connection that was admitted.
          obtain ⟨w, hw, hnumber, hadmits⟩ := hadmitted
          obtain rfl := number_inj hsound.numbered hw hmem hnumber hsocket
          rw [admits, hleaves] at hadmits
          cases hadmits
      | subscribe socket eventTypes => exact hleaves
      | unsubscribe socket eventTypes =>
          exact hnot ⟨Option.some.inj hsocket, hleaves⟩
      | disconnect socket => exact hnot (Option.some.inj hsocket)
    · change room ∈ t.rooms n
      rw [(hdoes.others n hsocket).1]
      exact h

/-- A socket stays out of the room of a type as long as no call puts it in. -/
theorem absent_record (hsound : Sound r) {eventType : String}
    (hquiet : Quiet (brings n (eventRoom eventType)) r) (m : Move Event)
    (h : eventRoom eventType ∉ r.store.rooms n) :
    eventRoom eventType ∉ (record program r m).2.store.rooms n := by
  rcases followed_cases program hsound.followed m with hsame | ⟨call, -, hnew⟩ |
    ⟨before, call, rest, seen, lived, after, next, t, -, hcalls, hrest, hdoes, -, hnew⟩
  · rw [hsame]
    exact h
  · -- An access of some call.
    rw [hnew]
    exact h
  · rw [hnew]
    have hmem : ⟨call, rest, seen, lived⟩ ∈ r.calls := by
      rw [hcalls]
      exact List.mem_append_right _ (List.mem_cons_self ..)
    have hnot : ¬brings n (eventRoom eventType) call := by
      intro hbrings
      rw [hquiet _ hmem hbrings] at hrest
      cases hrest
    -- Of the calls of this socket only a subscription enters a room of a type.
    by_cases hsocket : socketOf call seen = some n
    · intro hroom
      rcases hdoes.comes n _ hsocket hroom with hbefore | henters
      · exact h hbefore
      · cases call with
        | connect clientId =>
            obtain ⟨client, hclient⟩ := henters
            exact eventRoom_ne_clientRoom _ _ hclient
        | subscribe socket eventTypes => exact hnot ⟨Option.some.inj hsocket, henters⟩
        | unsubscribe socket eventTypes => exact henters
        | disconnect socket => exact henters
    · change eventRoom eventType ∉ t.rooms n
      rw [(hdoes.others n hsocket).1]
      exact h

/-- A socket that is in a room, and that no call is about to take out. -/
structure Inside (n : Nat) (room : String) (r : Recorded World String Event) : Prop where
  sound : Sound r
  admitted : Admitted n r
  quiet : Quiet (takes n room) r
  member : room ∈ r.store.rooms n

theorem inside_record {room : String} (h : Inside n room r) {m : Move Event}
    (hm : ∀ event, m = .start event → ¬takes n room event) :
    Inside n room (record program r m).2 where
  sound := sound_record h.sound m
  admitted := admitted_record h.admitted m
  quiet := quiet_record h.quiet hm
  member := member_record h.sound h.admitted h.quiet m h.member

/-- A socket that is out of the room of a type, and that no call is about to put in. -/
structure Outside (n : Nat) (eventType : String) (r : Recorded World String Event) : Prop where
  sound : Sound r
  quiet : Quiet (brings n (eventRoom eventType)) r
  absent : eventRoom eventType ∉ r.store.rooms n

theorem outside_record {eventType : String} (h : Outside n eventType r) {m : Move Event}
    (hm : ∀ event, m = .start event → ¬brings n (eventRoom eventType) event) :
    Outside n eventType (record program r m).2 where
  sound := sound_record h.sound m
  quiet := quiet_record h.quiet hm
  absent := absent_record h.sound h.quiet m h.absent

/-! ### What is acknowledged -/

/-- No call of a kind is under way, and none is started. -/
structure Undisturbed (kind : Event → Prop) (r : Recorded World String Event)
    (moves : List (Move Event)) : Prop where
  quiet : Quiet kind r
  starts : ∀ event ∈ moves.filterMap Move.started, ¬kind event

theorem along_starts {kind : Event → Prop} {moves : List (Move Event)}
    (h : ∀ event ∈ moves.filterMap Move.started, ¬kind event) :
    Along (record program) (fun m _ _ _ => ∀ event, m = .start event → ¬kind event) moves r := by
  induction moves generalizing r with
  | nil => exact trivial
  | cons m moves ih =>
      refine ⟨fun event hm => h event ?_, ih fun event hevent => h event ?_⟩
      · rw [hm]
        exact List.mem_cons_self ..
      · cases m with
        | start call => exact List.mem_cons_of_mem _ hevent
        | access i => exact hevent

/-- When a subscription is acknowledged, its socket is in the room of each type, unless
    a call may have taken it out in the meantime. -/
theorem inside_of_acknowledged {eventTypes : List String} {eventType : String}
    (hmem : eventType ∈ eventTypes) (hsound : Sound r) {moves : List (Move Event)}
    (hquiet : Undisturbed (takes n (eventRoom eventType)) r moves)
    {w : Watched World String Event}
    (hw : (after (record program) (.start (.subscribe n eventTypes) :: moves) r).calls[
      r.calls.length]? = some w) (hok : w.rest.outcome = some (.ok ())) :
    Inside n (eventRoom eventType)
      (after (record program) (.start (.subscribe n eventTypes) :: moves) r) := by
  have hstart : Quiet (takes n (eventRoom eventType))
      (record program r (.start (.subscribe n eventTypes))).2 := by
    refine quiet_record hquiet.quiet fun event hevent htakes => ?_
    cases hevent
    exact htakes
  obtain ⟨hsound', hquiet', hsince⟩ := after_invariant
    (I := fun q => Sound q ∧ Quiet (takes n (eventRoom eventType)) q ∧
      Since r.calls.length (Event.subscribe n eventTypes)
        (fun world : World => (world.connectedClients n).isSome) (Admitted n)
        (fun world : World => eventRoom eventType ∈ world.rooms n) q)
    (fun m q hm hq => ⟨sound_record hq.1 m, quiet_record hq.2.1 hm,
      since_record hq.2.2 (hq.1.numbered.known n) (fun h => admitted_record h m)
        fun h => member_record hq.1 h hq.2.1 m⟩)
    ⟨sound_record hsound _, hstart, since_start program r _ _ _ _⟩ (along_starts hquiet.starts)
  rw [after_cons] at hw ⊢
  obtain ⟨w', hw', hcall⟩ := hsince.place
  obtain rfl := Option.some.inj (hw'.symm.trans hw)
  have hdone := follows_outcome (hsound'.followed w' (List.mem_of_getElem? hw)) hok
  rw [hcall] at hdone
  -- The socket was known, so it was admitted, and each type has been handled.
  obtain ⟨⟨p, hp, hsome⟩, htypes⟩ := hdone
  obtain ⟨hadmitted, hstays⟩ := hsince.stays w' hw p hp hsome
  obtain ⟨q, hq, hroom⟩ := htypes eventType hmem
  exact ⟨hsound', hadmitted, hquiet', hstays q hq hroom⟩

/-- When it is acknowledged that a subscription has ended, its socket is out of the room
    of each type, unless a call may have put it in in the meantime. -/
theorem outside_of_acknowledged {eventTypes : List String} {eventType : String}
    (hmem : eventType ∈ eventTypes) (hsound : Sound r) {moves : List (Move Event)}
    (hquiet : Undisturbed (brings n (eventRoom eventType)) r moves)
    {w : Watched World String Event}
    (hw : (after (record program) (.start (.unsubscribe n eventTypes) :: moves) r).calls[
      r.calls.length]? = some w) (hok : w.rest.outcome = some (.ok ())) :
    Outside n eventType
      (after (record program) (.start (.unsubscribe n eventTypes) :: moves) r) := by
  have hstart : Quiet (brings n (eventRoom eventType))
      (record program r (.start (.unsubscribe n eventTypes))).2 := by
    refine quiet_record hquiet.quiet fun event hevent hbrings => ?_
    cases hevent
    exact hbrings
  -- Once the socket is out of the room it stays out, by `absent_record`.
  obtain ⟨hsound', hquiet', hsince⟩ := after_invariant
    (I := fun q => Sound q ∧ Quiet (brings n (eventRoom eventType)) q ∧
      Since r.calls.length (Event.unsubscribe n eventTypes) (fun _ => True) (fun _ => True)
        (fun world : World => eventRoom eventType ∉ world.rooms n) q)
    (fun m q hm hq => ⟨sound_record hq.1 m, quiet_record hq.2.1 hm,
      since_record hq.2.2 (fun _ => trivial) (fun _ => trivial)
        fun _ => absent_record hq.1 hq.2.1 m⟩)
    ⟨sound_record hsound _, hstart, since_start program r _ _ _ _⟩ (along_starts hquiet.starts)
  rw [after_cons] at hw ⊢
  obtain ⟨w', hw', hcall⟩ := hsince.place
  obtain rfl := Option.some.inj (hw'.symm.trans hw)
  have hdone := follows_outcome (hsound'.followed w' (List.mem_of_getElem? hw)) hok
  rw [hcall] at hdone
  -- An acknowledged call has seen a world in which it was out.
  obtain ⟨q, hq, hroom⟩ := hdone eventType hmem
  obtain ⟨p, hp⟩ : ∃ p, w'.seen.head? = some p :=
    ⟨_, List.head?_eq_some_head (List.ne_nil_of_mem hq)⟩
  exact ⟨hsound', hquiet', (hsince.stays w' hw p hp trivial).2 q hq hroom⟩

end

end Rooms

end Events

end SvmCourse
