import SvmCourse.Core.Prog

/-!
# Events Gateway

Sockets connect under the id of a client, subscribe to types of events and
unsubscribe from them. The gateway keeps the client and its subscriptions for each
connected socket, puts the socket into the room of each type, and keeps a row for
each client and type in the table of subscriptions.

Every access to the table, to the rooms and to what the gateway keeps is one step.
A socket is known by the number of its connection, so no two are the same. When a
socket disconnects, the server takes it out of all rooms before the gateway
hears of it.

## Main definitions

* `EventSubscription`, `ClientData`: Rows, and what is kept for a socket.
* `World`: The table, the connected clients and the rooms.
* `createSubscription`, `updateSubscriptionByClientAndType`: Rows.
* `handleConnection`, `handleDisconnect`, `handleSubscribe`, `handleUnsubscribe`:
  The handlers of the gateway.
* `step`: One event.
-/

namespace SvmCourse

namespace Events

open Core Core.Prog

/-! ### The world -/

/-- How events reach a subscriber. -/
inductive SubscriptionType where
  | WEBSOCKET | WEBHOOK | KAFKA
  deriving DecidableEq, Repr

/-- The statuses of a subscription. -/
inductive SubscriptionStatus where
  | ACTIVE | INACTIVE | SUSPENDED
  deriving DecidableEq, Repr

/-- A row of the subscriptions. -/
structure EventSubscription where
  clientId : String
  eventType : String
  subscriptionType : SubscriptionType
  status : SubscriptionStatus := .ACTIVE
  deriving DecidableEq

/-- What the gateway keeps of a socket. -/
structure ClientData where
  clientId : String
  subscriptions : List String
  deriving DecidableEq

/-- The sockets, the rooms they are in, and the table of subscriptions. -/
structure World where
  connections : Nat := 0
  connectedClients : Nat → Option ClientData := fun _ => none
  rooms : Nat → List String := fun _ => []
  eventSubscriptions : List EventSubscription := []

/-- A call of the gateway: accesses one after the other, or an error. -/
abbrev Service := Prog World String

/-- One access to the world. -/
def query {α : Type} (act : World → α × World) : Service α := Prog.perform "StoreError" act

namespace World

/-- The first row of a kind and its id. -/
def rowOf (world : World) (kind : EventSubscription → Bool) : Option (EventSubscription × Nat) := do
  let id ← world.eventSubscriptions.findIdx? kind
  let row ← world.eventSubscriptions[id]?
  pure (row, id)

/-- The world with the row at that place written. -/
def setRow (world : World) (id : Nat) (row : EventSubscription) : World :=
  { world with eventSubscriptions := world.eventSubscriptions.set id row }

/-- The world with what is kept of a socket written. -/
def setClient (world : World) (socket : Nat) (data : Option ClientData) : World :=
  { world with connectedClients := Function.update world.connectedClients socket data }

/-- The world with the rooms of a socket written. -/
def setRooms (world : World) (socket : Nat) (rooms : List String) : World :=
  { world with rooms := Function.update world.rooms socket rooms }

end World

namespace subscriptionRepository

/-- The first row of that kind, and its place. -/
def findOne (kind : EventSubscription → Bool) : Service (Option (EventSubscription × Nat)) :=
  query fun world => (world.rowOf kind, world)

/-- Save a new row. -/
def insert (row : EventSubscription) : Service Unit :=
  query fun world => ((), { world with eventSubscriptions := world.eventSubscriptions ++ [row] })

/-- Write the row at that place. -/
def save (id : Nat) (row : EventSubscription) : Service Unit :=
  query fun world => ((), world.setRow id row)

end subscriptionRepository

namespace connectedClients

/-- What is kept of a socket. -/
def get (socket : Nat) : Service (Option ClientData) :=
  query fun world => (world.connectedClients socket, world)

/-- Keep something of a socket. -/
def set (socket : Nat) (data : ClientData) : Service Unit :=
  query fun world => ((), world.setClient socket (some data))

/-- Keep nothing of a socket any longer. -/
def delete (socket : Nat) : Service Unit :=
  query fun world => ((), world.setClient socket none)

/-- The list that is kept for a socket is changed where it is. -/
def modify (socket : Nat) (change : List String → List String) : Service Unit :=
  query fun world => ((), world.setClient socket ((world.connectedClients socket).map fun data =>
    { data with subscriptions := change data.subscriptions }))

end connectedClients

namespace client

/-- The server takes a connection, and numbers it. -/
def accept : Service Nat :=
  query fun world => (world.connections, { world with connections := world.connections + 1 })

/-- The socket joins the room. -/
def join (socket : Nat) (room : String) : Service Unit :=
  query fun world => ((), world.setRooms socket (room :: world.rooms socket))

/-- The socket leaves the room. -/
def leave (socket : Nat) (room : String) : Service Unit :=
  query fun world => ((), world.setRooms socket ((world.rooms socket).filter (· ≠ room)))

/-- The socket leaves all rooms. -/
def leaveAll (socket : Nat) : Service Unit := query fun world => ((), world.setRooms socket [])

end client

/-! ### Rows -/

/-- The body of a subscription. -/
structure CreateEventSubscriptionDto where
  clientId : String
  eventType : String
  subscriptionType : SubscriptionType

/-- Activate the row of the subscription, or save a new one. -/
def createSubscription (dto : CreateEventSubscriptionDto) : Service Unit := do
  let existing ← subscriptionRepository.findOne fun row =>
    row.clientId = dto.clientId && row.eventType = dto.eventType &&
      row.subscriptionType = dto.subscriptionType
  -- A row that is there is written over, and active again.
  let row : EventSubscription := {
    clientId := dto.clientId
    eventType := dto.eventType
    subscriptionType := dto.subscriptionType
    status := .ACTIVE }
  match existing with
  | some (_, id) => subscriptionRepository.save id row
  | none => subscriptionRepository.insert row

/-- Which of the types of subscription the row has does not matter. -/
def updateSubscriptionByClientAndType (clientId eventType : String)
    (status : SubscriptionStatus) : Service Unit := do
  let subscription ← subscriptionRepository.findOne fun row =>
    row.clientId = clientId && row.eventType = eventType
  let found ← demand subscription
    s!"Subscription not found for client {clientId} and event type {eventType}"
  subscriptionRepository.save found.2 { found.1 with status }

/-! ### Handlers -/

/-- What a message is answered. -/
inductive Response where
  | success (eventTypes : List String)
  | failure (error : String)
  deriving DecidableEq, Repr

/-- The room of a client. -/
def clientRoom (clientId : String) : String := "client:" ++ clientId

/-- The room of an event type. -/
def eventRoom (eventType : String) : String := "event:" ++ eventType

/-- Forget the socket. The rows of its client stay. -/
def handleDisconnect (socket : Nat) : Service Unit := do
  let clientData ← connectedClients.get socket
  -- The rows of the client stay as they are.
  if clientData.isSome then connectedClients.delete socket

/-- A socket disconnects: it leaves its rooms, and is forgotten. -/
def disconnect (socket : Nat) : Service Unit := do
  client.leaveAll socket
  handleDisconnect socket

/-- A socket connects: it is kept, and joins the room of its client. -/
def handleConnection (socket : Nat) (clientId : Option String) : Service Unit := do
  match clientId.filter (· ≠ "") with
  -- A socket without a client is not kept.
  | none => disconnect socket
  | some clientId =>
    connectedClients.set socket { clientId, subscriptions := [] }
    client.join socket (clientRoom clientId)

/-- Subscribe to one type: the row, the room, and the list. -/
def subscribe (socket : Nat) (clientId eventType : String) : Service Unit := do
  createSubscription { clientId, eventType, subscriptionType := .WEBSOCKET }
  client.join socket (eventRoom eventType)
  -- A type that is on the list already is put there again.
  connectedClients.modify socket fun subscriptions => subscriptions ++ [eventType]

/-- Unsubscribe from one type: the row, the room, and the list. -/
def unsubscribe (socket : Nat) (clientId eventType : String) : Service Unit := do
  updateSubscriptionByClientAndType clientId eventType .INACTIVE
  client.leave socket (eventRoom eventType)
  -- It is taken from the list once.
  connectedClients.modify socket fun subscriptions => subscriptions.erase eventType

/-- What the handlers of both messages do with the types of a message. -/
def handleMessage (socket : Nat) (eventTypes : List String)
    (body : String → String → Service Unit) : Service Response := do
  let clientData ← connectedClients.get socket
  match clientData with
  | none => pure (.failure "Client not authenticated")
  | some clientData =>
    let handled : Service Response := do
      each eventTypes (body clientData.clientId)
      pure (.success eventTypes)
    -- What was done before the error stays done.
    handled.rescue fun message => pure (.failure message)

/-- A message that subscribes to several types. -/
def handleSubscribe (socket : Nat) (eventTypes : List String) : Service Response :=
  handleMessage socket eventTypes (subscribe socket)

/-- A message that unsubscribes from several types. -/
def handleUnsubscribe (socket : Nat) (eventTypes : List String) : Service Response :=
  handleMessage socket eventTypes (unsubscribe socket)

/-! ### Events -/

/-- What the gateway is told. -/
inductive Event where
  | connect (clientId : Option String)
  | subscribe (socket : Nat) (eventTypes : List String)
  | unsubscribe (socket : Nat) (eventTypes : List String)
  | disconnect (socket : Nat)

/-- What is answered, if the event is a message. -/
def handle : Event → Service (Option Response)
  | .connect clientId => do
    let socket ← client.accept
    handleConnection socket clientId
    pure none
  | .subscribe socket eventTypes => do
    let response ← handleSubscribe socket eventTypes
    pure (some response)
  | .unsubscribe socket eventTypes => do
    let response ← handleUnsubscribe socket eventTypes
    pure (some response)
  | .disconnect socket => do
    disconnect socket
    pure none

/-- One event on the world. -/
def step (world : World) (event : Event) : Except String (Option Response) × World :=
  (handle event).eval world

end Events

end SvmCourse
