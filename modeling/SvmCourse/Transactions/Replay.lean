import SvmCourse.Transactions.Sending
import SvmCourse.Transactions.Statuses

/-!
# The Events Tell the Statuses

The table of transactions is written in many ways: a row is created, by hand or
by one of the five methods that send a transaction, it is updated and removed,
and its status is looked up on the network, one by one or for a whole history.
All of them tell the publisher about it. So somebody who has only the events,
and takes the last one about a transaction, knows the status of every row.

The calls come one after another. How the network answers, which ids the database
gives and how every publication ends is decided outside, and makes no difference.
A row that is created under an id of its own comes as a whole. An update must not
give a row another id: nobody is told that.

## Main definitions

* `Command`, `step`: All the ways the table is written, as a machine.
* `Command.KeepsId`: An update leaves the id alone.
* `replay`: The status that the last event about a transaction gives it.
* `Consistent`: An event fits the events before it.
* `Told`: The events tell the status of every row, and fit.

## Theorems

* `told_event`: A write that is told by one event.
* `told_after`: The events tell the statuses after every run.
-/

namespace SvmCourse

namespace Transactions

namespace Replay

open Core Core.Prog Core.Machine Statuses

/-! ### Runs -/

/-- The ways the table is written. A row that is created has an id of its own, if it
    is named, or the one that the database gives it. -/
inductive Command where
  | create (row : Record) (named : Bool) (outcome : Except String Unit)
  | update (id : Nat) (updateData : UpdateData) (outcome : Except String Unit)
  | remove (id : Nat)
  | send (method : Method) (outside : Outside)
  | look (call : Statuses.Call)

/-- What a command does, access by access. -/
def Command.program : Command → Service Unit
  | .create row named outcome => do
    let _ ← Transactions.create row named outcome
    pure ()
  | .update id updateData outcome => do
    let _ ← Transactions.update id updateData outcome
    pure ()
  | .remove id => Transactions.remove id
  | .send method outside => do
    let _ ← Transactions.send method outside
    pure ()
  | .look call => do
    let _ ← call.program
    pure ()

/-- One command on the records. -/
def step (tracker : Tracker) (command : Command) : Except String Unit × Tracker :=
  command.program.eval tracker

/-- An update gives no id, or the one the row has. -/
def Command.KeepsId : Command → Prop
  | .update id updateData _ => ∀ given ∈ updateData.id, given = id
  | _ => True

/-- The status that the events give a transaction, if any is about it. -/
def replay (published : List TransactionEvent) (transactionId : Nat) : Option TransactionStatus :=
  published.foldl
    (fun known event => if event.transactionId = transactionId then some event.status else known)
    none

/-- What stands under a name. -/
def datum (metadata : Metadata) (name : String) : Option Datum := metadata.reverse.lookup name

/-- A change is told with the status that the events give before, and leads to
    another one. What a transaction has come to is told when the events say so
    already. -/
def Consistent (earlier : List TransactionEvent) (event : TransactionEvent) : Prop :=
  match event.eventType with
  | .CREATED => True
  | .STATUS_UPDATED => ∃ previous, replay earlier event.transactionId = some previous ∧
      event.status ≠ previous ∧
      datum event.metadata "previousStatus" = some (.text (toString previous))
  | .CONFIRMED => event.status = .CONFIRMED ∧
      replay earlier event.transactionId = some .CONFIRMED
  | .FAILED => event.status = .FAILED ∧ replay earlier event.transactionId = some .FAILED

/-- The events tell the status of every record, and each takes up where the earlier
    ones end. -/
structure Told (tracker : Tracker) : Prop where
  rows : ∀ row ∈ tracker.records.table.rows, replay tracker.published row.id = some row.status
  events : ∀ earlier event later, tracker.published = earlier ++ event :: later →
    Consistent earlier event

/-! ### What the events tell -/

section

variable {tracker later : Tracker} {row : Record} {event : TransactionEvent}

theorem replay_append (published : List TransactionEvent) (event : TransactionEvent)
    (transactionId : Nat) : replay (published ++ [event]) transactionId =
      if event.transactionId = transactionId then some event.status
      else replay published transactionId :=
  List.foldl_concat ..

/-- Every event fits, also the last one. -/
theorem events_append (h : Told tracker) (hfits : Consistent tracker.published event)
    {earlier after : List TransactionEvent} {one : TransactionEvent}
    (heq : tracker.published ++ [event] = earlier ++ one :: after) : Consistent earlier one := by
  rcases List.eq_nil_or_concat after with rfl | ⟨front, last, rfl⟩
  · rcases List.append_inj' heq rfl with ⟨rfl, hone⟩
    cases hone
    exact hfits
  · rw [List.concat_eq_append, ← List.cons_append, ← List.append_assoc] at heq
    exact h.events earlier one front (List.append_inj' heq rfl).1

/-- A write is told by one event when the rows are those from before, but for the
    row the event is about. -/
theorem told_event (h : Told tracker) (hfits : Consistent tracker.published event)
    (hpublished : later.published = tracker.published ++ [event])
    (hrows : ∀ row ∈ later.records.table.rows,
      event.transactionId = row.id ∧ event.status = row.status ∨
      event.transactionId ≠ row.id ∧
        ∃ old ∈ tracker.records.table.rows, old.id = row.id ∧ old.status = row.status) :
    Told later := by
  refine ⟨fun row hrow => ?_, fun earlier one after heq => ?_⟩
  · rw [hpublished, replay_append]
    rcases hrows row hrow with ⟨hid, hstatus⟩ | ⟨hid, old, hold, hsame, hstatus⟩
    · rw [if_pos hid, hstatus]
    · rw [if_neg hid, ← hsame, ← hstatus]
      exact h.rows old hold
  · rw [hpublished] at heq
    exact events_append h hfits heq

/-- Nothing has to be told when no status is another one. -/
theorem told_rows (h : Told tracker) (hpublished : later.published = tracker.published)
    (hrows : ∀ row ∈ later.records.table.rows,
      ∃ old ∈ tracker.records.table.rows, old.id = row.id ∧ old.status = row.status) :
    Told later := by
  refine ⟨fun row hrow => ?_, fun earlier one after heq => ?_⟩
  · rcases hrows row hrow with ⟨old, hold, hsame, hstatus⟩
    rw [hpublished, ← hsame, ← hstatus]
    exact h.rows old hold
  · rw [hpublished] at heq
    exact h.events earlier one after heq

/-- An event about a row of the table, with its status, changes nothing. -/
theorem told_hears (h : Told tracker) (hrow : row ∈ tracker.records.table.rows)
    (hfits : Consistent tracker.published event) (hid : event.transactionId = row.id)
    (hstatus : event.status = row.status) : Told (tracker.hears [event]) := by
  refine told_event h hfits rfl fun other hother => ?_
  by_cases hsame : other.id = row.id
  · cases Table.eq_of_key hother hrow hsame
    exact Or.inl ⟨hid, hstatus⟩
  · exact Or.inr ⟨fun heq => hsame (heq.symm.trans hid), other, hother, rfl, rfl⟩

theorem told_confirmed (h : Told tracker) (hrow : row ∈ tracker.records.table.rows)
    (hstatus : row.status = .CONFIRMED) :
    Told (tracker.hears [transactionConfirmed row.toTransaction]) :=
  told_hears h hrow ⟨hstatus, hstatus ▸ h.rows row hrow⟩ rfl rfl

theorem told_failed (h : Told tracker) (hrow : row ∈ tracker.records.table.rows)
    (hstatus : row.status = .FAILED) (error : String) :
    Told (tracker.hears [transactionFailed row.toTransaction error]) :=
  told_hears h hrow ⟨hstatus, hstatus ▸ h.rows row hrow⟩ rfl rfl

/-! ### Creating and sending -/

/-- A row that is saved is told. -/
theorem told_saved (h : Told tracker) {named : Bool} {records : Records}
    (hsave : tracker.records.save row named = .ok records) :
    Told (Tracker.hears { tracker with records } [transactionCreated row.toTransaction]) := by
  have hfits : Consistent tracker.published (transactionCreated row.toTransaction) := trivial
  refine told_event h hfits rfl fun other hother => ?_
  rcases (Records.mem_save hsave).mp hother with rfl | ⟨hold, hid⟩
  · exact Or.inl ⟨rfl, rfl⟩
  · exact Or.inr ⟨fun hsame => hid hsame.symm, other, hold, rfl, rfl⟩

theorem create_told (h : Told tracker) (row : Record) (named : Bool)
    (outcome : Except String Unit) :
    (create row named outcome).Ensures False tracker fun answer later => Told later ∧
      ∀ saved, answer = .ok saved → saved = row ∧ row ∈ later.records.table.rows := by
  rw [ensures_false_iff]
  cases hsave : tracker.records.save row named with
  | error message =>
      rw [create_refused hsave]
      exact ⟨h, fun saved hsaved => by cases hsaved⟩
  | ok records =>
      rw [create_saved hsave]
      -- The row is there, however the publication ends.
      have hmem : row ∈ records.table.rows := (Records.mem_save hsave).mpr (Or.inl rfl)
      refine ⟨told_saved h hsave, fun saved hsaved => ⟨?_, hmem⟩⟩
      cases outcome with
      | error message => cases hsaved
      | ok u => exact (Except.ok.inj hsaved).symm

/-- A publication leaves what is told when its event fits. -/
theorem publish_told {event : TransactionEvent} (outcome : Except String Unit)
    (h : Told (tracker.hears [event])) :
    (publish event outcome).Ensures False tracker fun _ later => Told later := by
  rw [ensures_false_iff, eval_publish]
  exact h

/-- A record is created, and an event repeats what it says. -/
theorem recorded_told {α : Type} (h : Told tracker) {row : Record}
    {created published : Except String Unit} {event : Record → TransactionEvent}
    {rest : Service α}
    (hevent : ∀ later, Told later → row ∈ later.records.table.rows →
      Told (later.hears [event row]))
    (hrest : ∀ later, Told later → rest.Ensures False later fun _ last => Told last) :
    ((create row false created).bind fun saved =>
      (publish (event saved) published).bind fun _ => rest).Ensures False tracker
        fun _ later => Told later := by
  refine ensures_bind (ensures_mono (create_told h row false created)
    fun answer later hcreated => ?_)
  cases answer with
  -- A record that is refused, or whose creation is not published, ends the call.
  | error message => exact hcreated.1
  | ok saved =>
      rcases hcreated with ⟨htold, hsaved⟩
      rcases hsaved saved rfl with ⟨rfl, hmem⟩
      refine ensures_bind (ensures_mono (publish_told published (hevent later htold hmem))
        fun answer last hlast => ?_)
      cases answer with
      | error message => exact hlast
      | ok u => exact hrest last hlast

theorem send_told (h : Told tracker) (method : Method) (outside : Outside) :
    (send method outside).Ensures False tracker fun _ later => Told later := by
  refine ensures_rescue (ensures_mono (Q := fun _ later => Told later) ?_ ?_)
  · refine ensures_bind (ensures_compute ?_)
    cases method.sent outside with
    | error message => exact h
    | ok sent =>
        exact recorded_told h
          (fun later htold hmem => told_confirmed htold hmem (method.confirmed_status ..))
          fun later htold => htold
  · -- Whatever the block has left, the failed record is told after it.
    intro answer later htold
    cases answer with
    | ok signature => exact htold
    | error message =>
        exact recorded_told htold
          (fun later htold hmem => told_failed htold hmem (method.failed_status ..) message)
          fun later htold => htold

/-! ### Updating and removing -/

theorem apply_id {updateData : UpdateData} (h : ∀ given ∈ updateData.id, given = row.id) :
    (updateData.apply row).id = row.id := by
  rw [UpdateData.apply]
  cases hgiven : updateData.id with
  | none => rfl
  | some given => exact h given hgiven

/-- A row that is given another status is told. -/
theorem told_changed {existing changed : Record} (h : Told tracker)
    (hmem : existing ∈ tracker.records.table.rows) (hid : changed.id = existing.id)
    (hnew : changed.status ≠ existing.status)
    (hpublished : later.published = tracker.published ++
      [transactionStatusUpdated changed.toTransaction existing.status])
    (hrows : ∀ row ∈ later.records.table.rows, row = changed ∨
      row ∈ tracker.records.table.rows ∧ existing.id ≠ row.id) : Told later := by
  have hfits : Consistent tracker.published
      (transactionStatusUpdated changed.toTransaction existing.status) := by
    refine ⟨existing.status, ?_, hnew, ?_⟩
    · exact (congrArg _ hid).trans (h.rows existing hmem)
    · -- The entry that is added is the one that counts.
      rw [datum, transactionStatusUpdated, Transaction.event, List.reverse_append]
      rfl
  refine told_event h hfits hpublished fun row hrow => ?_
  rcases hrows row hrow with rfl | ⟨hold, hother⟩
  · exact Or.inl ⟨rfl, rfl⟩
  · exact Or.inr ⟨fun heq => hother (hid.symm.trans heq), row, hold, rfl, rfl⟩

/-- The status of a row stays if none is given or the one that it has. -/
theorem apply_status {updateData : UpdateData}
    (h : ¬(updateData.status.isSome ∧ updateData.status ≠ some row.status)) :
    (updateData.apply row).status = row.status := by
  rw [UpdateData.apply]
  cases hgiven : updateData.status with
  | none => rfl
  | some status =>
      by_contra hother
      refine h ⟨hgiven ▸ rfl, fun hstatus => hother ?_⟩
      exact Option.some.inj (hgiven.symm.trans hstatus)

theorem update_told (h : Told tracker) {id : Nat} {updateData : UpdateData}
    (hid : ∀ given ∈ updateData.id, given = id) (outcome : Except String Unit) :
    Told ((update id updateData outcome).eval tracker).2 := by
  have hlookup : (transactionsRepository.findOne id).eval tracker =
      (.ok (tracker.records.table.findOne id), tracker) := rfl
  rw [update, bind_eq, eval_bind_ok hlookup]
  cases hfound : tracker.records.table.findOne id with
  | none => exact h
  | some existing =>
      rcases Table.findOne_eq_some_iff.mp hfound with ⟨hmem, rfl⟩
      rw [bind_eq, eval_bind_ok (eval_demand_some existing _ tracker)]
      simp only [transactionsRepository.update, query, bind_eq, pure_eq, eval_bind, eval_perform,
        eval_compute]
      cases hchange : tracker.records.change existing.id updateData with
      | error message => exact h
      | ok records =>
          -- The one changed row stands under its id.
          have hrows : ∀ row ∈ records.table.rows, row = updateData.apply existing ∨
              row ∈ tracker.records.table.rows ∧ existing.id ≠ row.id :=
            fun row hrow => Records.mem_change hmem hchange hrow
          have hsame : (updateData.apply existing).id = existing.id := apply_id hid
          simp only [transactionsRepository.findOne, query, eval_perform,
            Records.findOne_change hmem hsame hchange]
          split
          · -- The status is another one, and an event tells it.
            next hnew =>
              rcases Option.isSome_iff_exists.mp hnew.1 with ⟨status, hgiven⟩
              have hother : (updateData.apply existing).status ≠ existing.status := by
                rw [UpdateData.apply, hgiven, Option.getD_some]
                rintro rfl
                exact hnew.2 hgiven
              simp only [eval_bind, eval_demand_some, eval_publish]
              cases outcome with
              | error message => exact told_changed h hmem hsame hother rfl hrows
              | ok u => exact told_changed h hmem hsame hother rfl hrows
          · -- The status is as it was.
            next hkept =>
              refine told_rows h rfl fun row hrow => ?_
              rcases hrows row hrow with rfl | ⟨hold, -⟩
              · exact ⟨existing, hmem, hsame.symm, (apply_status hkept).symm⟩
              · exact ⟨row, hold, rfl, rfl⟩

theorem remove_told (h : Told tracker) (id : Nat) : Told ((remove id).eval tracker).2 :=
  told_rows h rfl fun row hrow => ⟨row, (List.mem_filter.mp hrow).1, rfl, rfl⟩

/-! ### Looking at the network -/

/-- What has come of a transaction is told after its status. -/
theorem told_announces (h : Told tracker) {newStatus : TransactionStatus}
    (hmem : row.withStatus newStatus ∈ tracker.records.table.rows) (reply : Reply) :
    Told (tracker.hears (reply.announces newStatus row)) := by
  have hnothing : Told (tracker.hears []) :=
    told_rows h (List.append_nil _) fun row hrow => ⟨row, hrow, rfl, rfl⟩
  unfold Reply.announces
  cases reply.statusUpdated with
  | error message => exact hnothing
  | ok u =>
      cases newStatus with
      | PENDING => exact hnothing
      | CONFIRMED => exact told_confirmed h hmem rfl
      | FAILED => exact told_failed h hmem rfl _

theorem updateTransactionStatus_told (h : Told tracker) (signature : String) (reply : Reply) :
    Told ((updateTransactionStatus signature reply).eval tracker).2 := by
  rcases updateTransactionStatus_cases tracker signature reply with
    ⟨hsame, -⟩ | ⟨row, blockchainStatus, hrow, -, hnew, hlater⟩
  · rw [hsame]
    exact h
  · rw [hlater]
    have hmem := (Records.mem_of_findBySignature hrow).1
    have hfound := Records.findOne_update hmem blockchainStatus.newStatus
    -- The status is told right after it was saved.
    have htold : Told (tracker.updated row blockchainStatus.newStatus) := by
      refine told_changed h hmem (row.withStatus_id blockchainStatus.newStatus) hnew rfl
        fun other hother => ?_
      simp only [Tracker.updated, Records.update, Table.mem_update] at hother
      rcases hother with ⟨old, hold, rfl⟩
      split
      · next hid =>
          cases Table.eq_of_key hold hmem (of_decide_eq_true hid)
          exact Or.inl rfl
      · next hid => exact Or.inr ⟨hold, fun hsame => hid (decide_eq_true hsame.symm)⟩
    exact told_announces htold (Table.mem_of_findOne hfound) reply

theorem visit_told (h : Told tracker) (sig : Visit) : Told ((visit sig).eval tracker).2 := by
  rcases visit_cases tracker sig with hlook | ⟨-, hsame | ⟨fee, records, hsave, hsaved⟩⟩
  · rw [hlook]
    exact updateTransactionStatus_told h _ _
  · rw [hsame]
    exact h
  · rw [hsaved]
    exact told_saved h hsave

theorem visits_told (h : Told tracker) (signatures : List Visit) :
    Told ((visits signatures).eval tracker).2 := by
  induction signatures generalizing tracker with
  | nil => exact h
  | cons sig signatures ih =>
      have hone := visit_told h sig
      -- The first visit that fails ends the call, and what went before it stays.
      rcases visits_cons tracker sig signatures with
        ⟨transaction, later, hvisit, hrest⟩ | ⟨message, later, hvisit, hrest⟩
      · rw [hvisit] at hone
        rw [hrest]
        exact ih hone
      · rw [hvisit] at hone
        rw [hrest]
        exact hone

theorem look_told (h : Told tracker) (call : Statuses.Call) :
    Told (Statuses.step tracker call).2 := by
  cases call with
  | updateTransactionStatus signature reply =>
      rw [step_updateTransactionStatus]
      exact updateTransactionStatus_told h signature reply
  | getTransactionHistory publicKey signatures =>
      rcases history_cases tracker publicKey signatures with
        ⟨sigs, -, -, hlater⟩ | ⟨-, hlater⟩
      · rw [hlater]
        exact visits_told h sigs
      · rw [hlater]
        exact h

/-! ### Runs of commands -/

theorem step_told (h : Told tracker) {command : Command} (hkeeps : command.KeepsId) :
    Told (step tracker command).2 := by
  -- What a command returns does not matter.
  cases command with
  | create row named outcome =>
      have htold := (ensures_false_iff _ _ _).mp (create_told h row named outcome)
      exact (congrArg Told (eval_map _ (fun _ => ()) tracker)).mpr htold.1
  | update id updateData outcome =>
      have htold := update_told h hkeeps outcome
      exact (congrArg Told (eval_map _ (fun _ => ()) tracker)).mpr htold
  | remove id => exact remove_told h id
  | send method outside =>
      have htold := (ensures_false_iff _ _ _).mp (send_told h method outside)
      exact (congrArg Told (eval_map _ (fun _ => ()) tracker)).mpr htold
  | look call =>
      exact (congrArg Told (eval_map _ (fun _ => ()) tracker)).mpr (look_told h call)

end

/-- After every run whose updates leave the ids alone, the last event about a
    transaction has its status, and every event fits the events before it. -/
theorem told_after (commands : List Command) (hkeeps : ∀ command ∈ commands, command.KeepsId) :
    Told (after step commands { records := .empty }) := by
  have hstart : Told { records := .empty } :=
    ⟨fun row hrow => (List.not_mem_nil hrow).elim,
      fun earlier event later heq => (List.append_ne_nil_of_right_ne_nil earlier
        (List.cons_ne_nil event later) heq.symm).elim⟩
  exact after_invariant (P := fun command _ => command.KeepsId)
    (fun command tracker hkept h => step_told h hkept) hstart
    (along_of_mem (fun command hcommand _ => hkeeps command hcommand) _)

/-- A row is created, confirmed, and written over under its id. Then a transfer is
    sent whose events cannot be published. -/
def sampleCommands : List Command :=
  [.create { id := 5, signature := "first", type := .TRANSFER } false (.ok ()),
    .update 5 { status := some .CONFIRMED } (.ok ()),
    .create { id := 5, signature := "second", type := .TRANSFER, status := .FAILED } true (.ok ()),
    .send (sendTransfer "key" "to" 1) brokerDown]

theorem sampleCommands_told :
    Told (after step sampleCommands { records := .empty }) ∧
      (after step sampleCommands { records := .empty }).records.table.rows.map
        (fun row => (row.id, row.status)) = [(5, .FAILED), (0, .CONFIRMED), (1, .FAILED)] := by
  refine ⟨told_after sampleCommands fun command hcommand => ?_, by decide⟩
  simp only [sampleCommands, List.mem_cons, List.not_mem_nil, or_false] at hcommand
  rcases hcommand with rfl | rfl | rfl | rfl
  · trivial
  · exact fun given hgiven => nomatch hgiven
  · trivial
  · trivial

/-- Nobody is told the status of a row under an id that an update has given it. -/
example : replay (after step
    [.create { signature := "first", type := .TRANSFER } false (.ok ()),
      .update 0 { id := some 1, status := some .CONFIRMED } (.ok ())]
    { records := .empty }).published 1 = none := by decide

end Replay

end Transactions

end SvmCourse
