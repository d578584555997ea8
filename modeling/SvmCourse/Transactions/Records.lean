import SvmCourse.Core.Prog
import SvmCourse.Core.Table
import SvmCourse.Transactions.Publisher

/-!
# The Table of Transactions

The rows of the transactions service. Each has an id and a signature that no
other row has, and the columns for numbers hold whole numbers only. What does
not keep to that is refused, and then nothing is written.

A row may come with an id of its own. Then it is written over the row that has
the id, and is added if there is none. Otherwise the database gives it an id,
which has to be new. An update writes what it gives over what the row has, the
id not excepted.

Everything that writes the table goes through here, and tells the publisher
about it. How a publication ends is decided outside. An event is in the buffer
of the publisher once it has been handed over, also when the publication ends
with an exception. Every change of a status is recorded, and that record is
looked at by nobody.

## Main definitions

* `Records`: The table. No two rows have one id or one signature.
* `Records.save`, `Records.change`: A row that is written, and an update.
* `Tracker`: The table, the changes of a status, and the events.
* `create`, `update`: What the service does with its table.

## Theorems

* `Records.save_iff`: When a row is added.
* `Records.mem_save`: The rows after a save.
* `create_saved`, `create_refused`: What a creation leaves.
-/

namespace SvmCourse

namespace Transactions

open Core Core.Prog

/-! ### Rows -/

/-- A row with the fee of the transaction. -/
structure Record extends Transaction where
  fee : Option ℚ := none
  deriving DecidableEq

/-- The row under the id that the database gives it. -/
def numbered (row : Transaction) (id : Nat) : Record := { row with id }

/-- What a column of whole numbers holds that has so many bits. -/
def Whole (bits : Nat) (q : ℚ) : Prop :=
  q.den = 1 ∧ -2 ^ (bits - 1) ≤ q.num ∧ q.num < 2 ^ (bits - 1)

instance (bits : Nat) (q : ℚ) : Decidable (Whole bits q) :=
  inferInstanceAs (Decidable (_ ∧ _ ∧ _))

/-- The columns hold the numbers of the row. -/
structure Record.Fits (row : Record) : Prop where
  amount : Whole 64 row.amount
  fee : ∀ fee ∈ row.fee, Whole 64 fee
  slot : ∀ slot ∈ row.slot, Whole 32 slot

instance (row : Record) : Decidable row.Fits :=
  decidable_of_iff (Whole 64 row.amount ∧ (∀ fee ∈ row.fee, Whole 64 fee) ∧
    ∀ slot ∈ row.slot, Whole 32 slot)
    ⟨fun h => ⟨h.1, h.2.1, h.2.2⟩, fun h => ⟨h.amount, h.fee, h.slot⟩⟩

/-- What is given is written over what the row has. A field that may be empty
    may be given as empty. -/
structure UpdateData where
  id : Option Nat := none
  status : Option TransactionStatus := none
  signature : Option String := none
  type : Option TransactionType := none
  fromAddress : Option (Option String) := none
  toAddress : Option (Option String) := none
  amount : Option ℚ := none
  fee : Option (Option ℚ) := none
  slot : Option (Option ℚ) := none
  blockTime : Option (Option ℚ) := none
  metadata : Option Metadata := none

/-- The row after the update. -/
def UpdateData.apply (updateData : UpdateData) (row : Record) : Record where
  id := updateData.id.getD row.id
  signature := updateData.signature.getD row.signature
  type := updateData.type.getD row.type
  status := updateData.status.getD row.status
  fromAddress := updateData.fromAddress.getD row.fromAddress
  toAddress := updateData.toAddress.getD row.toAddress
  amount := updateData.amount.getD row.amount
  fee := updateData.fee.getD row.fee
  slot := updateData.slot.getD row.slot
  blockTime := updateData.blockTime.getD row.blockTime
  metadata := updateData.metadata.getD row.metadata

/-- The columns hold the numbers that are given. -/
structure UpdateData.Fits (updateData : UpdateData) : Prop where
  amount : ∀ amount ∈ updateData.amount, Whole 64 amount
  fee : ∀ fee ∈ updateData.fee.join, Whole 64 fee
  slot : ∀ slot ∈ updateData.slot.join, Whole 32 slot

instance (updateData : UpdateData) : Decidable updateData.Fits :=
  decidable_of_iff ((∀ amount ∈ updateData.amount, Whole 64 amount) ∧
    (∀ fee ∈ updateData.fee.join, Whole 64 fee) ∧ ∀ slot ∈ updateData.slot.join, Whole 32 slot)
    ⟨fun h => ⟨h.1, h.2.1, h.2.2⟩, fun h => ⟨h.amount, h.fee, h.slot⟩⟩

/-! ### The table -/

/-- The rows, no two of which have one id or one signature. -/
structure Records where
  table : Table fun row : Record => row.id
  signatures : (table.rows.map fun row => row.signature).Nodup

namespace Records

/-- No records. -/
def empty : Records := ⟨Table.empty, List.nodup_nil⟩

/-- The record with that signature. -/
def findBySignature (records : Records) (signature : String) : Option Record :=
  records.table.rows.find? fun row => row.signature = signature

/-- A row that names its id is written over the one that has it. One that the
    database gives an id is new. -/
def save (records : Records) (row : Record) (named : Bool) : Except String Records :=
  if row.Fits then
    if h : (named ∨ records.table.findOne row.id = none) ∧
        ((records.table.save row).rows.map fun row => row.signature).Nodup then
      .ok { table := records.table.save row, signatures := h.2 }
    else .error "duplicate key value violates unique constraint"
  else .error "invalid input syntax for type bigint"

/-- The rows of the id are written, the id being what the update makes it. -/
def change (records : Records) (id : Nat) (updateData : UpdateData) : Except String Records :=
  let rows := records.table.rows.map fun row => if row.id = id then updateData.apply row else row
  if updateData.Fits then
    if h : (rows.map fun row => row.id).Nodup ∧ (rows.map fun row => row.signature).Nodup then
      .ok { table := ⟨rows, h.1⟩, signatures := h.2 }
    else .error "duplicate key value violates unique constraint"
  else .error "invalid input syntax for type bigint"

/-- The records without the one with that id. -/
def delete (records : Records) (id : Nat) : Records where
  table := {
    rows := records.table.rows.filter fun row => row.id ≠ id
    unique := records.table.unique.sublist (List.filter_sublist.map _) }
  signatures := records.signatures.sublist (List.filter_sublist.map _)

/-- A row that the database can add. -/
structure Accepts (records : Records) (row : Record) : Prop where
  fits : row.Fits
  id : records.table.findOne row.id = none
  signature : row.signature ∉ records.table.rows.map fun row => row.signature

variable {records records' : Records} {row : Record}

theorem mem_of_findBySignature {signature : String}
    (h : records.findBySignature signature = some row) :
    row ∈ records.table.rows ∧ row.signature = signature :=
  ⟨List.mem_of_find?_eq_some h, by simpa using List.find?_some h⟩

theorem table_save {named : Bool} (h : records.save row named = .ok records') :
    records'.table = records.table.save row := by
  unfold save at h
  split at h
  · split at h
    · cases h
      rfl
    · cases h
  · cases h

/-- The row is there, and the others that have another id. -/
theorem mem_save {named : Bool} {other : Record} (h : records.save row named = .ok records') :
    other ∈ records'.table.rows ↔
      other = row ∨ other ∈ records.table.rows ∧ other.id ≠ row.id := by
  rw [table_save h]
  exact Table.mem_save

/-- The database adds a row exactly when its id and its signature are new and its
    numbers fit. -/
theorem save_iff : (∃ records', records.save row false = .ok records') ↔ records.Accepts row := by
  -- For a new id the unique signature is a matter of the new row alone.
  have hsignatures (hid : records.table.findOne row.id = none) :
      ((records.table.save row).rows.map fun row => row.signature).Nodup ↔
        row.signature ∉ records.table.rows.map fun row => row.signature := by
    rw [Table.save_rows_of_none hid, List.map_append, List.map_singleton, ← List.concat_eq_append,
      List.nodup_concat]
    exact and_iff_left records.signatures
  constructor
  · rintro ⟨records', h⟩
    unfold save at h
    split at h
    · next hfits =>
        split at h
        · next hnew =>
            have hid : records.table.findOne row.id = none := by
              simpa only [Bool.false_eq_true, false_or] using hnew.1
            exact ⟨hfits, hid, (hsignatures hid).mp hnew.2⟩
        · cases h
    · cases h
  · intro h
    refine ⟨⟨_, (hsignatures h.id).mpr h.signature⟩, ?_⟩
    rw [save, if_pos h.fits, dif_pos ⟨Or.inr h.id, (hsignatures h.id).mpr h.signature⟩]

/-- A row that the database adds is the last one. -/
theorem rows_save (h : records.save row false = .ok records') :
    records'.table.rows = records.table.rows ++ [row] := by
  rw [table_save h]
  exact Table.save_rows_of_none (save_iff.mp ⟨records', h⟩).id

theorem rows_change {id : Nat} {updateData : UpdateData}
    (h : records.change id updateData = .ok records') :
    records'.table.rows =
      records.table.rows.map fun row => if row.id = id then updateData.apply row else row := by
  unfold change at h
  dsimp only at h
  split at h
  · split at h
    · cases h
      rfl
    · cases h
  · cases h

/-- The row has become what the update makes of it, and the others are as they
    were. -/
theorem mem_change {existing : Record} {updateData : UpdateData}
    (hexisting : existing ∈ records.table.rows)
    (h : records.change existing.id updateData = .ok records')
    (hrow : row ∈ records'.table.rows) :
    row = updateData.apply existing ∨ row ∈ records.table.rows ∧ existing.id ≠ row.id := by
  rw [rows_change h, List.mem_map] at hrow
  rcases hrow with ⟨old, hold, rfl⟩
  split
  · next hid =>
      cases Table.eq_of_key hold hexisting hid
      exact Or.inl rfl
  · next hid => exact Or.inr ⟨hold, fun hsame => hid hsame.symm⟩

/-- If the update leaves the id alone, the row is found under it. -/
theorem findOne_change {updateData : UpdateData} (hmem : row ∈ records.table.rows)
    (hid : (updateData.apply row).id = row.id)
    (h : records.change row.id updateData = .ok records') :
    records'.table.findOne row.id = some (updateData.apply row) := by
  refine Table.findOne_eq_some_iff.mpr ⟨?_, hid⟩
  rw [rows_change h]
  exact List.mem_map.mpr ⟨row, hmem, if_pos rfl⟩

end Records

/-! ### The service -/

/-- The status of a record before and after it was written. -/
structure Change where
  signature : String
  previousStatus : TransactionStatus
  status : TransactionStatus
  deriving DecidableEq

/-- The table, the changes of a status so far, and the events that have been
    handed over. -/
structure Tracker where
  records : Records
  changes : List Change := []
  published : List TransactionEvent := []

/-- A method of the service. -/
abbrev Service := Prog Tracker String

/-- One access to the tables or the publisher. -/
def query {α : Type} (act : Tracker → α × Tracker) : Service α := Prog.perform "StoreError" act

namespace transactionsRepository

/-- The record with that id. -/
def findOne (id : Nat) : Service (Option Record) :=
  query fun tracker => (tracker.records.table.findOne id, tracker)

/-- The record with that signature. -/
def findBySignature (signature : String) : Service (Option Record) :=
  query fun tracker => (tracker.records.findBySignature signature, tracker)

/-- Save a record, unless the table refuses it. -/
def save (row : Record) (named : Bool) : Service Record := do
  let answer ← query fun tracker =>
    match tracker.records.save row named with
    | .ok records => (.ok row, { tracker with records })
    | .error message => (.error message, tracker)
  compute answer

/-- Write the given fields of a record, unless the table refuses them. -/
def update (existing : Record) (updateData : UpdateData) : Service Unit := do
  let answer ← query fun tracker =>
    match tracker.records.change existing.id updateData with
    | .ok records => (.ok (), { tracker with
        records
        changes := tracker.changes ++
          [⟨existing.signature, existing.status, updateData.status.getD existing.status⟩] })
    | .error message => (.error message, tracker)
  compute answer

/-- Delete the record with that id. -/
def delete (id : Nat) : Service Unit :=
  query fun tracker => ((), { tracker with records := tracker.records.delete id })

end transactionsRepository

/-- The event is handed over, whatever comes of that. -/
def publish (event : TransactionEvent) (outcome : Except String Unit) : Service Unit := do
  query fun tracker => ((), { tracker with published := tracker.published ++ [event] })
  compute outcome

/-- Create a record: save it, and publish that it is there. -/
def create (row : Record) (named : Bool) (outcome : Except String Unit) : Service Record := do
  let savedTransaction ← transactionsRepository.save row named
  publish (transactionCreated savedTransaction.toTransaction) outcome
  pure savedTransaction

/-- The row is looked up under the same id before and after. An update that gives
    it another one leaves nothing there. -/
def update (id : Nat) (updateData : UpdateData) (outcome : Except String Unit) :
    Service (Option Record) := do
  let found ← transactionsRepository.findOne id
  let existingTransaction ← demand found "Cannot read properties of null (reading 'status')"
  -- The row is written before anything is told, and stays written if telling fails.
  transactionsRepository.update existingTransaction updateData
  let updatedTransaction ← transactionsRepository.findOne id
  if updateData.status.isSome ∧ updateData.status ≠ some existingTransaction.status then do
    let row ← demand updatedTransaction "Cannot read properties of null (reading 'id')"
    publish (transactionStatusUpdated row.toTransaction existingTransaction.status) outcome
  pure updatedTransaction

/-- Remove a record, of which no event tells. -/
def remove (id : Nat) : Service Unit := transactionsRepository.delete id

/-! ### What is left -/

variable {tracker : Tracker} {row : Record} {named : Bool}

/-- The events that have been handed over besides. -/
def Tracker.hears (tracker : Tracker) (events : List TransactionEvent) : Tracker :=
  { tracker with published := tracker.published ++ events }

theorem eval_publish (event : TransactionEvent) (outcome : Except String Unit)
    (tracker : Tracker) : (publish event outcome).eval tracker =
      (outcome, tracker.hears [event]) := by
  rw [publish, query, bind_eq, eval_bind_ok (eval_perform ..), eval_compute]
  rfl

/-- A row that was saved is told, and returned if it could be told. -/
theorem create_saved {records : Records} (h : tracker.records.save row named = .ok records)
    (outcome : Except String Unit) :
    (create row named outcome).eval tracker = (outcome.map fun _ => row,
      Tracker.hears { tracker with records } [transactionCreated row.toTransaction]) := by
  simp only [create, transactionsRepository.save, query, bind_eq, pure_eq, eval_bind, eval_perform,
    eval_compute, eval_publish, h]
  cases outcome <;> rfl

/-- A row that was refused leaves nothing. -/
theorem create_refused {message : String} (h : tracker.records.save row named = .error message)
    (outcome : Except String Unit) :
    (create row named outcome).eval tracker = (.error message, tracker) := by
  simp only [create, transactionsRepository.save, query, bind_eq, eval_bind, eval_perform,
    eval_compute, h]

end Transactions

end SvmCourse
