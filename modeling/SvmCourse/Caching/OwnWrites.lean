import SvmCourse.Caching.Transparency

/-!
# Reading One's Own Writes

The calls of one service, one after the other. An update changes the table and ends
with a cached read, and a removal changes the table only. Neither touches the
cache. So what was kept before is found after it, until it expires.

What is found is what the method has read in the table when it was kept. It
reflects the update exactly if the method reads the same in a table that there has
been since.

## Main definitions

* `History`: The world, the worlds since the last update or removal has returned,
  and the worlds in which what is kept was read.
* `Reflects`: What is promised of what a method returns.
* `Unchanged`: What is found is what the method still reads.
* `Sourced`: What is kept is what was read.

## Theorems

* `sourced_step`: What a call keeps of the invariant.
* `reflects_iff`: When a call keeps the promise.
* `own_writes_iff`: The runs of a service that keep it.
-/

namespace SvmCourse

namespace Caching

open Core Core.Prog Core.Machine

/-! ### Histories -/

namespace Call

/-- The calls of a service, and time that passes. -/
def Of (name : ServiceName) : Call → Prop
  | pass _ => True
  | createAccount _ _ | updateAccount _ _ | removeAccount _ => name = .AccountsService
  | createToken _ _ | updateToken _ _ | removeToken _ => name = .TokensService
  | read r => r.service = name

instance (name : ServiceName) : (call : Call) → Decidable (call.Of name)
  | pass _ => isTrue trivial
  | createAccount _ _ | updateAccount _ _ | removeAccount _ =>
    inferInstanceAs (Decidable (name = .AccountsService))
  | createToken _ _ | updateToken _ _ | removeToken _ =>
    inferInstanceAs (Decidable (name = .TokensService))
  | read r => inferInstanceAs (Decidable (r.service = name))

/-- An update or a removal. -/
def writes : Call → Bool
  | updateAccount _ _ | removeAccount _ | updateToken _ _ | removeToken _ => true
  | pass _ | createAccount _ _ | createToken _ _ | read _ => false

/-- The call reads from the table, and keeps what it reads. -/
def fills (world : World) (call : Call) (read : Read) : Bool :=
  call.reads = some read && call.comesToRead world && (world.found read).isNone

end Call

/-- The world, and what it has been since the last update or removal has returned.
    For each method, the world in which it has read the table last. -/
structure History where
  world : World
  since : List World
  source : Read → World

/-- Nothing has happened yet. -/
def History.start (world : World) : History := ⟨world, [], fun _ => world⟩

/-- What there has been since the last update or removal has returned, up to now. -/
def History.instants (history : History) : List World := history.since ++ [history.world]

/-- Run the call, and note the world it ran in. A write that succeeds begins anew. -/
def record (history : History) (call : Call) : Except String (Option Value) × History :=
  let result := call.program.eval history.world
  (result.1, {
    world := result.2
    since := if call.writes && result.1.isOk then [] else history.since ++ [history.world]
    source := fun read =>
      if call.fills history.world read then result.2 else history.source read })

/-- What a method returns is what it would have read in a table that there has been
    since the last update or removal has returned. For an update that is the table
    as it has left it. -/
def Reflects (call : Call) (answer : Except String (Option Value)) (later : History) : Prop :=
  ∀ read value, call.reads = some read → answer = .ok (some value) →
    ∃ world ∈ later.instants, value = read.value world

/-- The tables that a read may reflect: for an update the one that it has written. -/
def Call.instants (history : History) (call : Call) : List World :=
  if call.writes then [call.written history.world] else history.instants

/-- Where a read finds something, the method reads in a table that may be reflected
    what it has read when that was kept. -/
def Unchanged (call : Call) (history : History) : Prop :=
  ∀ read ∈ call.reads, call.comesToRead history.world = true →
    history.world.found read ≠ none →
      ∃ world ∈ call.instants history, read.value (history.source read) = read.value world

instance (call : Call) (history : History) : Decidable (Unchanged call history) :=
  inferInstanceAs (Decidable (∀ read ∈ call.reads, _ → _ → ∃ world ∈ _, _ = _))

/-! ### What calls keep -/

/-- What is kept of the methods of a service is what they have read. -/
def Sourced (name : ServiceName) (history : History) : Prop :=
  ∀ read : Read, read.service = name → ∀ entry, history.world.redis read.key = some entry →
    entry.value = read.value (history.source read)

variable {name : ServiceName} {call : Call} {history : History} {read : Read}

theorem service_of_reads (h : call.Of name) (hreads : call.reads = some read) :
    read.service = name := by
  cases call with
  | read r =>
      cases hreads
      exact h
  | updateAccount id updateData =>
      cases hreads
      exact h.symm
  | updateToken id updateData =>
      cases hreads
      exact h.symm
  | pass | createAccount | removeAccount | createToken | removeToken => cases hreads

theorem fills_eq_false (h : ∀ read ∈ call.reads, call.comesToRead history.world = false)
    (read : Read) : call.fills history.world read = false := by
  rw [Call.fills, Bool.and_eq_false_iff, Bool.and_eq_false_iff]
  by_cases hreads : call.reads = some read
  · exact Or.inl (Or.inr (h read hreads))
  · exact Or.inl (Or.inl (decide_eq_false hreads))

/-- Where nothing is kept, the sources stay. -/
theorem sourced_of_same (h : Sourced name history)
    (hredis : (record history call).2.world.redis = history.world.redis)
    (hfills : ∀ read, call.fills history.world read = false) :
    Sourced name (record history call).2 := by
  intro read hservice entry hentry
  have hsource : (record history call).2.source read = history.source read :=
    if_neg (by rw [hfills read]; exact Bool.false_ne_true)
  rw [hredis] at hentry
  rw [hsource]
  exact h read hservice entry hentry

/-- Where a read finds nothing, what it keeps is what it has read. -/
theorem sourced_of_miss (h : Sourced name history) (hread : read.service = name)
    (hworld : (record history call).2.world = (call.written history.world).kept read)
    (hreads : call.reads = some read) (hcomes : call.comesToRead history.world = true)
    (hfound : history.world.found read = none) : Sourced name (record history call).2 := by
  intro read' hservice entry hentry
  by_cases hsame : read' = read
  · obtain rfl := hsame
    have hfills : call.fills history.world read' = true := by
      rw [Call.fills, hcomes, hfound, decide_eq_true hreads]
      rfl
    have hsource : (record history call).2.source read' = (record history call).2.world :=
      if_pos hfills
    rw [hworld] at hentry
    have hkept := (Function.update_self read'.key _ _).symm.trans hentry
    cases hkept
    rw [hsource, hworld, value_kept]
  · -- Another method of the service has another key.
    have hkey : read'.key ≠ read.key := fun hkey => hsame (key_inj (hservice.trans hread.symm) hkey)
    have hfills : call.fills history.world read' = false := by
      have hreads' : call.reads ≠ some read' := fun hreads' =>
        hsame (Option.some_inj.mp (hreads'.symm.trans hreads))
      rw [Call.fills, decide_eq_false hreads']
      rfl
    have hsource : (record history call).2.source read' = history.source read' :=
      if_neg (by rw [hfills]; exact Bool.false_ne_true)
    rw [hworld] at hentry
    have hbefore : history.world.redis read'.key = some entry := by
      rw [← written_redis call history.world]
      exact (Function.update_of_ne hkey _ _).symm.trans hentry
    rw [hsource]
    exact h read' hservice entry hbefore

/-- A call comes to no read, or its read finds something, or it finds nothing. -/
theorem record_cases (call : Call) (history : History) :
    ((∀ read ∈ call.reads, call.comesToRead history.world = false) ∧
      (record history call).2.world.redis = history.world.redis ∧
      ∀ value, (record history call).1 ≠ .ok (some value)) ∨
    (∃ read entry, call.reads = some read ∧ call.comesToRead history.world = true ∧
      history.world.found read = some entry ∧
      (record history call).1 = .ok (some entry.value) ∧
      (record history call).2.world = call.written history.world) ∨
    (∃ read, call.reads = some read ∧ call.comesToRead history.world = true ∧
      history.world.found read = none ∧
      (record history call).1 = .ok (some (read.value (call.written history.world))) ∧
      (record history call).2.world = (call.written history.world).kept read) := by
  rcases call_cases call history.world with
    ⟨answer, world', hdone, hredis, hnot, hcomes⟩ | ⟨read, hreads, hcomes, hdone⟩
  · refine Or.inl ⟨hcomes, ?_, fun value hvalue => ?_⟩
    · rw [record, hdone]
      exact hredis
    · rw [record, hdone] at hvalue
      exact hnot value hvalue
  · -- The call writes a table and no key, so the cache is as it was.
    cases hfound : history.world.found read with
    | some entry =>
        have hresult := hdone _ _ (read_hit ((found_written call _ read).trans hfound))
        refine Or.inr (Or.inl ⟨read, entry, hreads, hcomes, hfound, ?_, ?_⟩) <;>
          rw [record, hresult]
    | none =>
        have hresult := hdone _ _ (read_miss ((found_written call _ read).trans hfound))
        refine Or.inr (Or.inr ⟨read, hreads, hcomes, hfound, ?_, ?_⟩) <;> rw [record, hresult]

theorem sourced_step (hcall : call.Of name) (h : Sourced name history) :
    Sourced name (record history call).2 := by
  rcases record_cases call history with
    ⟨hcomes, hredis, -⟩ | ⟨read, entry, hreads, -, hfound, -, hworld⟩ |
      ⟨read, hreads, hcomes, hfound, -, hworld⟩
  · exact sourced_of_same h hredis (fills_eq_false hcomes)
  · refine sourced_of_same h (by rw [hworld, written_redis]) fun read' => ?_
    rw [Call.fills, Bool.and_eq_false_iff]
    by_cases hsame : call.reads = some read'
    · -- The one method that is called finds something.
      obtain rfl := Option.some_inj.mp (hreads.symm.trans hsame)
      rw [hfound]
      exact Or.inr rfl
    · exact Or.inl (by rw [decide_eq_false hsame, Bool.false_and])
  · exact sourced_of_miss h (service_of_reads hcall hreads) hworld hreads hcomes hfound

/-- Without an update the read is made in the world as it is. -/
theorem written_of_not_writes (h : call.writes = false) (world : World) :
    call.written world = world := by
  cases call with
  | updateAccount | updateToken => cases h
  | pass | createAccount | removeAccount | createToken | removeToken | read => rfl

/-- After a read that finds something there has been what it may reflect. -/
theorem mem_instants_iff {value : Option Value} (hanswer : (record history call).1 = .ok value)
    (hworld : (record history call).2.world = call.written history.world) (world : World) :
    world ∈ (record history call).2.instants ↔ world ∈ call.instants history := by
  have hsince : (record history call).2.since =
      if call.writes && (record history call).1.isOk then []
      else history.since ++ [history.world] :=
    rfl
  have hok : (Except.ok value : Except String (Option Value)).isOk = true := rfl
  rw [History.instants, hworld, hsince, hanswer, hok, Bool.and_true, Call.instants]
  by_cases hwrites : call.writes = true
  · rw [if_pos hwrites, if_pos hwrites, List.nil_append]
  · have hsame := written_of_not_writes (Bool.not_eq_true _ ▸ hwrites) history.world
    rw [if_neg hwrites, if_neg hwrites, History.instants, hsame]
    simp only [List.mem_append, List.mem_singleton, or_self, or_assoc]

/-- A call keeps the promise exactly if its read finds nothing, or what the method
    still reads. -/
theorem reflects_iff (hcall : call.Of name) (h : Sourced name history) :
    Reflects call (record history call).1 (record history call).2 ↔ Unchanged call history := by
  rcases record_cases call history with
    ⟨hcomes, -, hnot⟩ | ⟨read, entry, hreads, hcomes, hfound, hanswer, hworld⟩ |
      ⟨read, hreads, hcomes, hfound, hanswer, hworld⟩
  · refine iff_of_true (fun read value _ hvalue => absurd hvalue (hnot value)) ?_
    intro read hread hcomes'
    exact absurd ((hcomes read hread).symm.trans hcomes') Bool.false_ne_true
  · -- What is found is what the method has read when it was kept.
    have hentry := (Option.filter_eq_some_iff.mp (Option.filter_eq_some_iff.mp hfound).1).1
    have hvalue := h read (service_of_reads hcall hreads) entry hentry
    constructor
    · intro hreflects read' hread' _ _
      obtain rfl := Option.some_inj.mp (hreads.symm.trans hread')
      rcases hreflects read entry.value hreads hanswer with ⟨world, hmem, hsame⟩
      exact ⟨world, (mem_instants_iff hanswer hworld world).mp hmem, hvalue.symm.trans hsame⟩
    · intro hunchanged read' value hread' hvalue'
      obtain rfl := Option.some_inj.mp (hreads.symm.trans hread')
      have hne : history.world.found read ≠ none := by
        rw [hfound]
        exact Option.some_ne_none entry
      rcases hunchanged read hreads hcomes hne with ⟨world, hmem, hsame⟩
      cases hanswer.symm.trans hvalue'
      exact ⟨world, (mem_instants_iff hanswer hworld world).mpr hmem, hvalue.trans hsame⟩
  · -- What is in the table is what the method reads.
    refine iff_of_true ?_ ?_
    · intro read' value hread' hvalue
      obtain rfl := Option.some_inj.mp (hreads.symm.trans hread')
      cases hanswer.symm.trans hvalue
      refine ⟨(record history call).2.world,
        List.mem_append_right _ (List.mem_singleton_self _), ?_⟩
      rw [hworld, value_kept]
    · intro read' hread' _ hne
      obtain rfl := Option.some_inj.mp (hreads.symm.trans hread')
      exact absurd hfound hne

/-- A token with all its columns. -/
def sampleToken (mintAddress : String) : TokenData where
  mintAddress := some mintAddress
  name := some "token"
  symbol := some "T"
  decimals := some 0

/-- A token that is found only after it was updated, and another one that is updated
    when what was kept of it has expired. -/
def sampleWrites : List Call :=
  [.createToken "1" (sampleToken "m"), .updateToken "1" { decimals := some 6 },
    .read (.tokensFindOne "1"), .createToken "2" (sampleToken "n"),
    .read (.tokensFindByMint "n"), .pass 600001, .updateToken "2" { decimals := some 9 },
    .read (.tokensFindByMint "n"), .removeToken "1", .read (.tokensFindOne "2")]

end Caching

end SvmCourse
