import Mathlib.Algebra.Order.BigOperators.Group.List
import Mathlib.Data.List.Nodup
import SvmCourse.Core.Contributions
import SvmCourse.Core.JsonValue
import SvmCourse.Core.Number
import SvmCourse.Events.Subscriptions

/-!
# Recording Events

What the connection reports is made an event, and so is what is posted. An event is
stored first and sent then, to the room of its type and to the room of the client its
source names. A log of a transaction that did not fail makes two events, one after the
other.

Everything that is reported is handled at once, so between the storing and the sending
of an event others are stored and sent. The table may refuse an event. Then it is not
sent, and nothing more comes of the report.

What a handler is told, and whether the table takes an event, comes with the call.

## Main definitions

* `CreateEventDto`, `Event`, `Message`: What is made of a report, stored and sent.
* `createEvent`: Storing an event and sending it.
* `Call`: A report, or an event that is posted.
* `Settled`: Every stored event has been sent once to each of its rooms.

## Theorems

* `call_follows`: A report stores an event, sends it, and goes on to the next.
* `owing_of_met`: A call owes at most one event, and none when it is done.
* `sent_once`: Nothing is sent that is not stored, and everything is sent once that is.
-/

namespace SvmCourse

namespace Events

namespace Recording

open Core Core.Prog Core.Sched Core.Machine Core.Json

/-! ### Events -/

/-- The types of events. -/
inductive EventType where
  | TRANSACTION_CONFIRMED | ACCOUNT_CHANGED | PROGRAM_LOG | CPI_INVOCATION | BLOCK_PRODUCED
  | SLOT_UPDATED
  deriving DecidableEq, Repr

/-- The text of a type. -/
def EventType.text : EventType → String
  | .TRANSACTION_CONFIRMED => "transaction_confirmed"
  | .ACCOUNT_CHANGED => "account_changed"
  | .PROGRAM_LOG => "program_log"
  | .CPI_INVOCATION => "cpi_invocation"
  | .BLOCK_PRODUCED => "block_produced"
  | .SLOT_UPDATED => "slot_updated"

/-- The statuses of an event. -/
inductive EventStatus where
  | PENDING | PROCESSED | FAILED
  deriving DecidableEq, Repr

/-- What an event is made of. -/
structure CreateEventDto where
  eventType : EventType
  source : String
  data : Value
  slot : Option String := none
  signature : Option String := none

/-- A row of the table. -/
structure Event where
  eventType : EventType
  source : String
  data : Value
  slot : Option Number
  signature : Option String
  status : EventStatus

/-- What is sent of an event. -/
structure Message where
  eventType : String
  data : Value
  source : String

/-- An empty slot counts as none. -/
def CreateEventDto.event (dto : CreateEventDto) : Event where
  eventType := dto.eventType
  source := dto.source
  data := dto.data
  slot := (dto.slot.filter (· ≠ "")).map Number.parseInt
  signature := dto.signature
  status := .PROCESSED

/-- The message of an event. -/
def CreateEventDto.message (dto : CreateEventDto) : Message where
  eventType := dto.eventType.text
  data := dto.data
  source := dto.source

/-- Where a message is sent. -/
def Message.rooms (message : Message) : List String :=
  eventRoom message.eventType :: if message.source ≠ "" then [clientRoom message.source] else []

/-- The message of a stored event. -/
def Event.message (event : Event) : Message where
  eventType := event.eventType.text
  data := event.data
  source := event.source

/-- The rows that were saved and the messages that were sent. -/
structure Store where
  events : List Event := []
  sent : List (String × Message) := []

/-- The store with the event saved. -/
def Store.save (s : Store) (dto : CreateEventDto) : Store :=
  { s with events := s.events ++ [dto.event] }

/-- The store with the event sent to its rooms. -/
def Store.emit (s : Store) (dto : CreateEventDto) : Store :=
  { s with sent := s.sent ++ dto.message.rooms.map fun room => (room, dto.message) }

/-! ### The service -/

/-- A call of the recorder: saves and messages one after the other, or an error. -/
abbrev Recorder := Prog Store String

/-- The table may refuse. -/
def save (dto : CreateEventDto) (saved : Except String Unit) : Recorder Unit :=
  (Prog.perform "StoreError" fun s => (saved, match saved with
    | .ok () => s.save dto
    | .error _ => s)).bind Prog.compute

/-- Send an event to its rooms. -/
def emitEvent (dto : CreateEventDto) : Recorder Unit :=
  Prog.perform "StoreError" fun s => ((), s.emit dto)

/-- Save an event, and send it. -/
def createEvent (dto : CreateEventDto) (saved : Except String Unit) : Recorder Unit := do
  save dto saved
  emitEvent dto

/-- The error of a handler is logged. -/
def logged (handler : Recorder Unit) : Recorder Unit := handler.rescue fun _ => .done ()

/-- What the connection reports of a transaction. -/
structure Logs where
  signature : String
  logs : List String
  err : Option Value

/-- The second word of the first log. -/
def Logs.programId (logs : Logs) : String :=
  let word := logs.logs.head?.bind fun log => (log.toList.splitOn ' ')[1]?
  ((word.map String.ofList).filter (· ≠ "")).getD "unknown"

/-- The event of the logs themselves. -/
def Logs.programLog (logs : Logs) : CreateEventDto where
  eventType := .PROGRAM_LOG
  source := logs.programId
  data := .object [("signature", .string logs.signature),
    ("logs", .array (logs.logs.map .string)), ("err", logs.err.getD .null)]
  signature := some logs.signature

/-- The event of a transaction that was confirmed. -/
def Logs.transactionConfirmed (logs : Logs) : CreateEventDto where
  eventType := .TRANSACTION_CONFIRMED
  source := logs.signature
  data := .object [("signature", .string logs.signature),
    ("logs", .array (logs.logs.map .string))]
  signature := some logs.signature

/-- The table takes the two events, or not. -/
def handleProgramLogs (logs : Logs) (saved saved' : Except String Unit) : Recorder Unit :=
  logged do
    createEvent logs.programLog saved
    if logs.err.isNone then createEvent logs.transactionConfirmed saved'

/-- The slot is a member of the update. -/
structure SlotUpdate where
  slot : Numeral
  update : Value

/-- The event of a slot. -/
def SlotUpdate.event (slotUpdate : SlotUpdate) : CreateEventDto where
  eventType := .SLOT_UPDATED
  source := "network"
  data := slotUpdate.update
  slot := some (String.ofList slotUpdate.slot.chars)

/-- A slot was updated. -/
def handleSlotUpdate (slotUpdate : SlotUpdate) (saved : Except String Unit) : Recorder Unit :=
  logged (createEvent slotUpdate.event saved)

/-- What the connection reports of an account. -/
structure AccountInfo where
  lamports : Numeral
  data : Value
  owner : String
  executable : Bool
  rentEpoch : Option Numeral

/-- The event of an account that has changed. -/
def accountChanged (accountId : String) (accountInfo : AccountInfo) : CreateEventDto where
  eventType := .ACCOUNT_CHANGED
  source := accountId
  data := .object ([("accountId", .string accountId), ("lamports", .number accountInfo.lamports),
    ("data", accountInfo.data), ("owner", .string accountInfo.owner),
    ("executable", .bool accountInfo.executable)] ++
      (accountInfo.rentEpoch.map fun n => ("rentEpoch", Value.number n)).toList)

/-- An account has changed. -/
def handleAccountChange (accountId : String) (accountInfo : AccountInfo)
    (saved : Except String Unit) : Recorder Unit :=
  logged (createEvent (accountChanged accountId accountInfo) saved)

/-- The address of an account, and the account as it is sent. -/
structure KeyedAccountInfo where
  accountId : String
  accountInfo : Value

/-- The event of an account of a program that has changed. -/
def programAccountChanged (programId : String) (accountInfo : KeyedAccountInfo) :
    CreateEventDto where
  eventType := .ACCOUNT_CHANGED
  source := accountInfo.accountId
  data := .object [("programId", .string programId), ("accountId", .string accountInfo.accountId),
    ("accountInfo", accountInfo.accountInfo)]

/-- An account of a program has changed. -/
def handleProgramAccountChange (programId : String) (accountInfo : KeyedAccountInfo)
    (saved : Except String Unit) : Recorder Unit :=
  logged (createEvent (programAccountChanged programId accountInfo) saved)

/-- The calls of the recorder. -/
inductive Call where
  | createEvent (dto : CreateEventDto) (saved : Except String Unit)
  | handleProgramLogs (logs : Logs) (saved saved' : Except String Unit)
  | handleSlotUpdate (slotUpdate : SlotUpdate) (saved : Except String Unit)
  | handleAccountChange (accountId : String) (accountInfo : AccountInfo)
      (saved : Except String Unit)
  | handleProgramAccountChange (programId : String) (accountInfo : KeyedAccountInfo)
      (saved : Except String Unit)

/-- What a call does, access by access. -/
def Call.program : Call → Recorder Unit
  | .createEvent dto saved => Recording.createEvent dto saved
  | .handleProgramLogs logs saved saved' => Recording.handleProgramLogs logs saved saved'
  | .handleSlotUpdate slotUpdate saved => Recording.handleSlotUpdate slotUpdate saved
  | .handleAccountChange accountId accountInfo saved =>
    Recording.handleAccountChange accountId accountInfo saved
  | .handleProgramAccountChange programId accountInfo saved =>
    Recording.handleProgramAccountChange programId accountInfo saved

/-! ### What a call does -/

/-- The events of a call, if the table takes them. -/
def Call.dtos : Call → List CreateEventDto
  | .createEvent dto _ => [dto]
  | .handleProgramLogs logs .. =>
    logs.programLog :: if logs.err.isNone then [logs.transactionConfirmed] else []
  | .handleSlotUpdate slotUpdate _ => [slotUpdate.event]
  | .handleAccountChange accountId accountInfo _ => [accountChanged accountId accountInfo]
  | .handleProgramAccountChange programId accountInfo _ =>
    [programAccountChanged programId accountInfo]

/-- Accesses come in pairs. The first stores an event or is refused, and the second sends
    the event that the first has stored. -/
def Call.writes (call : Call) (seen : List (Store × Store)) (s t : Store) : Prop :=
  ∃ dto, call.dtos[seen.length / 2]? = some dto ∧
    ((seen.length % 2 = 0 ∧ (t = s.save dto ∨ t = s)) ∨
      (seen.length % 2 = 1 ∧ t = s.emit dto ∧ ∃ u, seen.getLast? = some (u, u.save dto)))

/-- No event is left to be sent. -/
def Paired (seen : List (Store × Store)) : Prop :=
  seen.length % 2 = 0 ∨ ∃ u, seen.getLast? = some (u, u)

theorem createEvent_follows {call : Call} {seen : List (Store × Store)} {k : Nat}
    {dto : CreateEventDto} (hlength : seen.length = 2 * k) (hdto : call.dtos[k]? = some dto)
    (saved : Except String Unit) :
    (createEvent dto saved).Follows (watching call.writes)
      (fun seen' result => Paired seen' ∧ (result = .ok () → seen'.length = 2 * (k + 1))) seen := by
  have hfirst : call.dtos[seen.length / 2]? = some dto := by
    rw [hlength, Nat.mul_div_cancel_left k (by omega)]
    exact hdto
  cases saved with
  | error e =>
      intro s _
      -- The row is refused, and the call ends before the event is sent.
      refine ⟨_, ⟨rfl, dto, hfirst, Or.inl ⟨by omega, Or.inr rfl⟩⟩, ?_⟩
      exact ⟨Or.inr ⟨s, by simp⟩, fun h => by cases h⟩
  | ok u =>
      intro s _
      refine ⟨_, ⟨rfl, dto, hfirst, Or.inl ⟨by omega, Or.inl rfl⟩⟩, ?_⟩
      intro s' _
      -- The row is stored, and the second access sends it.
      refine ⟨_, ⟨rfl, dto, ?_, Or.inr ⟨?_, rfl, s, by simp⟩⟩, ?_⟩
      · rw [List.length_append, List.length_singleton, hlength]
        have hhalf : (2 * k + 1) / 2 = k := by omega
        rw [hhalf]
        exact hdto
      · rw [List.length_append, List.length_singleton]
        omega
      · have hlen : (seen ++ [(s, s.save dto)] ++ [(s', s'.emit dto)]).length = 2 * (k + 1) := by
          simp only [List.length_append, List.length_singleton]
          omega
        have heven : Paired (seen ++ [(s, s.save dto)] ++ [(s', s'.emit dto)]) :=
          Or.inl (by rw [hlen]; exact Nat.mul_mod_right 2 (k + 1))
        exact ⟨heven, fun _ => hlen⟩

theorem logged_follows {P : Protocol Store (List (Store × Store))} {p : Recorder Unit}
    {seen : List (Store × Store)} {R : List (Store × Store) → Prop}
    (h : p.Follows P (fun seen _ => R seen) seen) :
    (logged p).Follows P (fun seen _ => R seen) seen := by
  refine follows_rescue (follows_mono h fun seen' result hR => ?_)
  cases result with
  | ok u => exact hR
  | error e => exact hR

/-- A call that makes one event. -/
theorem single_follows {call : Call} {dto : CreateEventDto} (hdtos : call.dtos[0]? = some dto)
    (saved : Except String Unit) :
    (createEvent dto saved).Follows (watching call.writes) (fun seen _ => Paired seen) [] :=
  follows_mono (createEvent_follows rfl hdtos saved) fun _ _ h => h.1

theorem call_follows (call : Call) :
    call.program.Follows (watching call.writes) (fun seen _ => Paired seen) [] := by
  cases call with
  | createEvent dto saved => exact single_follows rfl saved
  | handleSlotUpdate slotUpdate saved => exact logged_follows (single_follows rfl saved)
  | handleAccountChange accountId accountInfo saved =>
      exact logged_follows (single_follows rfl saved)
  | handleProgramAccountChange programId accountInfo saved =>
      exact logged_follows (single_follows rfl saved)
  | handleProgramLogs logs saved saved' =>
      have hfirst : (Call.handleProgramLogs logs saved saved').dtos[0]? = some logs.programLog :=
        rfl
      refine logged_follows (follows_bind (follows_mono (createEvent_follows rfl hfirst saved) ?_))
      intro seen result h
      cases result with
      | error e => exact h.1
      | ok u =>
          change ((if logs.err.isNone = true then _ else _ : Recorder Unit)).Follows _ _ _
          split
          · -- A transaction without an error is a second event.
            next hnone =>
              have hsecond : (Call.handleProgramLogs logs saved saved').dtos[1]? =
                  some logs.transactionConfirmed := by
                rw [Call.dtos, if_pos hnone]
                rfl
              exact follows_mono (createEvent_follows (h.2 rfl) hsecond saved') fun _ _ h => h.1
          · exact h.1

/-! ### What is owed to a room -/

/-- The messages to a room that are stored and not sent, of those that are asked about. -/
def owed (room : String) (p : Message → Bool) (s : Store) : Int :=
  (s.events.countP fun event => event.message.rooms.contains room && p event.message : Nat) -
    (s.sent.countP fun entry => entry.1 == room && p entry.2 : Nat)

/-- What an event adds. -/
def due (room : String) (p : Message → Bool) (dto : CreateEventDto) : Int :=
  if dto.message.rooms.contains room && p dto.message then 1 else 0

theorem owed_save (room : String) (p : Message → Bool) (s : Store) (dto : CreateEventDto) :
    owed room p (s.save dto) - owed room p s = due room p dto := by
  have hmessage : dto.event.message = dto.message := rfl
  rw [owed, owed, due, Store.save, List.countP_append, List.countP_singleton, hmessage]
  split
  · push_cast
    omega
  · push_cast
    omega

theorem rooms_nodup (message : Message) : message.rooms.Nodup := by
  rw [Message.rooms]
  split
  · refine List.nodup_cons.mpr ⟨fun hmem => ?_, List.nodup_singleton _⟩
    exact eventRoom_ne_clientRoom _ _ (List.mem_singleton.mp hmem)
  · exact List.nodup_singleton _

/-- A message is sent once to each of its rooms. -/
theorem countP_sent (room : String) (p : Message → Bool) (message : Message) :
    (message.rooms.map fun room => (room, message)).countP
        (fun entry => entry.1 == room && p entry.2) =
      if message.rooms.contains room && p message then 1 else 0 := by
  rw [List.countP_map]
  cases hp : p message with
  | false => simp [Function.comp_def, hp]
  | true =>
      have hcount : message.rooms.count room = if room ∈ message.rooms then 1 else 0 :=
        (rooms_nodup message).count
      simpa [Function.comp_def, hp, List.count] using hcount

theorem owed_emit (room : String) (p : Message → Bool) (s : Store) (dto : CreateEventDto) :
    owed room p (s.emit dto) - owed room p s = - due room p dto := by
  rw [owed, owed, due, Store.emit, List.countP_append, countP_sent]
  split
  · push_cast
    omega
  · push_cast
    omega

/-- What a call owes after an odd number of accesses: nothing, if the last one was
    refused, and else the event that it has stored. -/
structure Owing (room : String) (p : Message → Bool) (call : Call)
    (seen : List (Store × Store)) (change : Int) : Prop where
  even : seen.length % 2 = 0 → change = 0
  odd : seen.length % 2 = 1 → ∃ u v, seen.getLast? = some (u, v) ∧ ((v = u ∧ change = 0) ∨
    ∃ dto, call.dtos[seen.length / 2]? = some dto ∧ v = u.save dto ∧ change = due room p dto)

theorem save_ne (s : Store) (dto : CreateEventDto) : s.save dto ≠ s := by
  intro hsame
  have hlength := congrArg (fun s => s.events.length) hsame
  simp [Store.save] at hlength

theorem met_init {call : Call} {seen : List (Store × Store)} {q : Store × Store}
    (h : Met Call.writes call (seen ++ [q])) :
    Met Call.writes call seen ∧ call.writes seen q.1 q.2 := by
  refine ⟨fun before p after hsplit => ?_, h seen q [] rfl⟩
  refine h before p (after ++ [q]) ?_
  rw [hsplit, List.append_assoc, List.cons_append]

theorem owing_of_met (room : String) (p : Message → Bool) {call : Call}
    {seen : List (Store × Store)} (h : Met Call.writes call seen) :
    Owing room p call seen (seen.map fun q => owed room p q.2 - owed room p q.1).sum := by
  -- The last access settles what the one before has left, or leaves something.
  induction seen using List.reverseRecOn with
  | nil => exact ⟨fun _ => rfl, fun hodd => absurd hodd (by decide)⟩
  | append_singleton seen q ih =>
      obtain ⟨hmet, dto, hdto, hwrites⟩ := met_init h
      rcases q with ⟨s, t⟩
      have hbefore := ih hmet
      rw [List.map_append, List.map_singleton, List.sum_append, List.sum_singleton]
      have hlength : (seen ++ [(s, t)]).length = seen.length + 1 := List.length_append
      rcases hwrites with ⟨heven, hsaved⟩ | ⟨hodd, hemit, u, hlast⟩
      · rw [hbefore.even heven, zero_add]
        refine ⟨fun h => by omega, fun _ => ⟨s, t, by simp, ?_⟩⟩
        rcases hsaved with hsave | hsame
        · obtain rfl : t = s.save dto := hsave
          refine Or.inr ⟨dto, ?_, rfl, owed_save room p s dto⟩
          have hhalf : (seen.length + 1) / 2 = seen.length / 2 := by omega
          rw [hlength, hhalf]
          exact hdto
        · obtain rfl : t = s := hsame
          exact Or.inl ⟨rfl, sub_self _⟩
      · refine ⟨fun _ => ?_, fun h => by omega⟩
        obtain ⟨u', v, hlast', hcase⟩ := hbefore.odd hodd
        obtain ⟨rfl, rfl⟩ := Prod.mk.inj (Option.some.inj (hlast.symm.trans hlast'))
        rcases hcase with ⟨hsame, -⟩ | ⟨dto', hdto', -, hchange⟩
        · exact absurd hsame (save_ne u dto)
        · -- The event that is sent is the one that was stored.
          obtain rfl := Option.some.inj (hdto.symm.trans hdto')
          have hsent := owed_emit room p s dto
          rw [← hemit] at hsent
          rw [hchange, hsent]
          exact add_neg_cancel _

theorem due_nonneg (room : String) (p : Message → Bool) (dto : CreateEventDto) :
    0 ≤ due room p dto := by
  rw [due]
  split <;> decide

theorem Owing.nonneg {room : String} {p : Message → Bool} {call : Call}
    {seen : List (Store × Store)} {change : Int} (h : Owing room p call seen change) :
    0 ≤ change := by
  rcases Nat.mod_two_eq_zero_or_one seen.length with heven | hodd
  · exact (h.even heven).ge
  · obtain ⟨u, v, -, ⟨-, hchange⟩ | ⟨dto, -, -, hchange⟩⟩ := h.odd hodd
    · exact hchange.ge
    · exact hchange ▸ due_nonneg room p dto

theorem Owing.eq_zero {room : String} {p : Message → Bool} {call : Call}
    {seen : List (Store × Store)} {change : Int} (h : Owing room p call seen change)
    (hpaired : Paired seen) : change = 0 := by
  rcases Nat.mod_two_eq_zero_or_one seen.length with heven | hodd
  · exact h.even heven
  · obtain ⟨u', hrefused⟩ := hpaired.resolve_left (by omega)
    obtain ⟨u, v, hlast, ⟨-, hchange⟩ | ⟨dto, -, hsaved, -⟩⟩ := h.odd hodd
    · exact hchange
    · -- The last access was refused, so it stored nothing.
      obtain ⟨rfl, rfl⟩ := Prod.mk.inj (Option.some.inj (hrefused.symm.trans hlast))
      exact absurd hsaved.symm (save_ne u' dto)

/-! ### Every event once -/

/-- How many of the messages that are asked about belong in a room, by the events that
    are stored. -/
def Store.stored (s : Store) (room : String) (p : Message → Bool) : Nat :=
  s.events.countP fun event => event.message.rooms.contains room && p event.message

/-- How many of them have been sent there. -/
def Store.delivered (s : Store) (room : String) (p : Message → Bool) : Nat :=
  s.sent.countP fun entry => entry.1 == room && p entry.2

/-- Nothing is sent that has not been stored, or more often, and when all calls are done
    every stored event has been sent as often as it was stored, to each of its rooms. -/
structure Settled (r : Recorded Store String Call) : Prop where
  safe : ∀ room p, r.store.delivered room p ≤ r.store.stored room p
  done : (∀ w ∈ r.calls, w.rest.unfinished = false) →
    ∀ room p, r.store.delivered room p = r.store.stored room p

/-- In every schedule, every event that is stored is sent once to each of its rooms. -/
theorem sent_once (moves : List (Move Call)) :
    Settled (after (record Call.program) moves ⟨{}, []⟩) := by
  have hcalls := met_after call_follows moves ({} : Store)
  -- What is owed in the end is what each call has added to it.
  have howed : ∀ room p, owed room p (after (record Call.program) moves ⟨{}, []⟩).store =
      (after (record Call.program) moves ⟨{}, []⟩).change (owed room p) := by
    intro room p
    have hchange := change_after (owed room p) Call.program moves ⟨{}, []⟩
    simpa [owed, Recorded.change, sub_eq_zero] using hchange
  refine ⟨fun room p => ?_, fun hdone room p => ?_⟩
  · -- No call sends before it stores.
    have hnonneg : 0 ≤ owed room p (after (record Call.program) moves ⟨{}, []⟩).store := by
      rw [howed]
      refine List.sum_nonneg fun change hchange => ?_
      obtain ⟨w, hw, rfl⟩ := List.mem_map.mp hchange
      exact (owing_of_met room p (hcalls w hw).1).nonneg
    rw [owed] at hnonneg
    exact Int.ofNat_le.mp (sub_nonneg.mp hnonneg)
  · -- And one that is done has sent what it stored.
    have hzero : owed room p (after (record Call.program) moves ⟨{}, []⟩).store = 0 := by
      rw [howed]
      refine List.sum_eq_zero fun change hchange => ?_
      obtain ⟨w, hw, rfl⟩ := List.mem_map.mp hchange
      refine (owing_of_met room p (hcalls w hw).1).eq_zero ?_
      obtain ⟨result, hresult⟩ := outcome_of_finished (hdone w hw)
      exact follows_outcome (hcalls w hw).2 hresult
    rw [owed] at hzero
    exact (Int.ofNat_inj.mp (sub_eq_zero.mp hzero)).symm

/-- While an event is on its way another is stored and sent, and the table refuses a
    third. -/
example : (after (record Call.program)
    [.start (.handleProgramLogs ⟨"sig", ["Program p invoke"], none⟩ (.ok ()) (.error "full")),
      .access 0, .start (.createEvent ⟨.BLOCK_PRODUCED, "", .null, none, none⟩ (.ok ())),
      .access 1, .access 1, .access 0, .access 0, .access 0]
    ⟨{}, []⟩).store.sent.map Prod.fst =
      ["event:block_produced", "event:program_log", "client:p"] := by
  decide

end Recording

end Events

end SvmCourse
