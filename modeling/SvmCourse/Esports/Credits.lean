import SvmCourse.Esports.Shares
import SvmCourse.Esports.System

/-!
# The Record of a Distribution

What the record of a payout says about the credits it made, when each credit
may succeed or fail on its own.

The loop finds the entry it marks by the player, and so reaches only the first
entry of each player. It also overwrites the prize of the player. With pairwise
different recipients neither matters. With a player who is paid twice, a winner
who is also the most valuable player say, the second entry stays pending
whatever happens, and the record is never `COMPLETED`.

Each credit is run against a pattern of refusals of its own here, as one access
of the payout, and every other access goes through. `distribute_endsLike` says
that these are ends of the payout itself.

## Main definitions

* `creditAllAgainst`, `distributeAgainst`: The payout with the outcome of each
  credit noted beside its record.
* `settledEntry`: An entry marked with the outcome of its own credit.
* `Shadowed`: A pending entry behind another entry of its player.
* `Truthful`: The record and the prizes agree with the outcomes.
* `matchRecipients`, `tournamentRecipients`: Who is paid, entry by entry.

## Theorems

* `distribute_endsLike`: The noted payout is the payout.
* `creditAllAgainst_record`: Pairwise different recipients are each marked with
  their outcome.
* `creditAllAgainst_shadowed`: A shadowed entry stays pending.
* `truthful_iff_distinct`: When the record tells the truth.
-/

namespace SvmCourse

namespace Esports

open Core Core.Prog

/-! ### The payout with its outcomes -/

/-- `creditOne` with the credit against a pattern of refusals. -/
def creditOneAgainst (refusals : Nat → Bool) (source : SourceId)
    (mark : PrizeCalculation → Service Unit) (dist : PrizeCalculation) : Service Unit := do
  let _ ← (creditPrize dist.playerId dist.amount source).against refusals
  mark dist

/-- `creditAll` with each credit against its own pattern of refusals, and the
    outcomes noted. -/
def creditAllAgainst (source : SourceId) (mark : PrizeCalculation → Service Unit) :
    List (PrizeCalculation × (Nat → Bool)) → PrizeDistribution → Int →
      Service (PrizeDistribution × Int × List Bool)
  | [], record, totalDistributed => pure (record, totalDistributed, [])
  | (dist, refusals) :: rest, record, totalDistributed => do
    let credited : Service (PrizeDistribution × Int × Bool) := do
      creditOneAgainst refusals source mark dist
      pure (record.entryCompleted dist.playerId, totalDistributed + dist.amount, true)
    -- A credit that fails is noted, and the next one follows.
    let next ← credited.rescue fun error =>
      pure (record.entryFailed dist.playerId error, totalDistributed, false)
    let outcome ← creditAllAgainst source mark rest next.1 next.2.1
    pure (outcome.1, outcome.2.1, next.2.2 :: outcome.2.2)

/-- `distribute` with credit number `i` against the refusals `refusals i`. -/
def distributeAgainst (refusals : Nat → Nat → Bool) (payout : Payout) :
    Service (PrizeDistribution × List Bool) := do
  let escrow ← getEscrowBySource payout.source
  let escrowBalance ← getEscrowBalance escrow.escrowId
  let totalPrizePool := escrowBalance.currentBalance
  let platformFee := platformFeeOf totalPrizePool payout.platformFeePercent
  let distributions ← compute (payout.calculate (totalPrizePool - platformFee))
  let record := payout.record totalPrizePool platformFee distributions
  let id ← prizeRepository.insert record
  -- The escrow is released before the first credit.
  let _ ← (releaseEscrow (paymentsOf payout.source distributions)).onError
    (failDistribution id record)
  let outcome ← creditAllAgainst payout.source payout.mark
    (distributions.zipIdx.map fun d => (d.1, refusals d.2)) record 0
  let settled : PrizeDistribution :=
    { outcome.1 with
      distributedAmount := outcome.2.1
      status := if outcome.1.isFullyDistributed then .COMPLETED else .PARTIAL }
  (prizeRepository.save id settled).onError (failDistribution id settled)
  pure (settled, outcome.2.2)

theorem creditOne_endsLike (refusals : Nat → Bool) (source : SourceId)
    (mark : PrizeCalculation → Service Unit) (dist : PrizeCalculation) :
    EndsLike id (creditOne source mark dist) (creditOneAgainst refusals source mark dist) :=
  endsLike_bind (endsLike_against refusals _) fun _ => endsLike_self (mark dist)

theorem creditAll_endsLike (source : SourceId) (mark : PrizeCalculation → Service Unit)
    (entries : List (PrizeCalculation × (Nat → Bool))) (record : PrizeDistribution) (total : Int) :
    EndsLike (fun outcome => (outcome.1, outcome.2.1))
      (creditAll source mark (entries.map Prod.fst) record total)
      (creditAllAgainst source mark entries record total) := by
  induction entries generalizing record total with
  | nil => exact endsLike_done rfl
  | cons entry rest ih =>
      rcases entry with ⟨dist, refusals⟩
      have hone := creditOne_endsLike refusals source mark dist
      -- The outcome is noted beside the record, and taking it away again gives the
      -- payout.
      have hcredited : EndsLike
          (fun next : PrizeDistribution × Int × Bool => (next.1, next.2.1))
          (((creditOne source mark dist).bind fun _ =>
            done (record.entryCompleted dist.playerId, total + dist.amount)).rescue fun error =>
              done (record.entryFailed dist.playerId error, total))
          (((creditOneAgainst refusals source mark dist).bind fun _ =>
            done (record.entryCompleted dist.playerId, total + dist.amount, true)).rescue
              fun error => done (record.entryFailed dist.playerId error, total, false)) :=
        endsLike_rescue (endsLike_bind hone fun _ => endsLike_done rfl) fun _ => endsLike_done rfl
      exact endsLike_bind hcredited fun next => endsLike_map (ih next.1 next.2.1) fun _ => rfl

/-- Evaluating the noted payout is one of the ends of the payout. -/
theorem distribute_endsLike (refusals : Nat → Nat → Bool) (payout : Payout) :
    EndsLike Prod.fst (distribute payout) (distributeAgainst refusals payout) := by
  unfold distribute distributeAgainst
  refine endsLike_bind (endsLike_self _) fun escrow => ?_
  refine endsLike_bind (endsLike_self _) fun escrowBalance => ?_
  refine endsLike_bind (endsLike_self _) fun distributions => ?_
  refine endsLike_bind (endsLike_self _) fun id => ?_
  refine endsLike_bind (endsLike_self _) fun txs => ?_
  have hcredits := creditAll_endsLike payout.source payout.mark
    (distributions.zipIdx.map fun d => (d.1, refusals d.2))
    (payout.record escrowBalance.currentBalance
      (platformFeeOf escrowBalance.currentBalance payout.platformFeePercent) distributions) 0
  -- Numbering the entries does not change them.
  have hpayments : (distributions.zipIdx.map fun d => (d.1, refusals d.2)).map Prod.fst =
      distributions := by
    rw [List.map_map]
    exact List.zipIdx_map_fst 0 distributions
  rw [hpayments] at hcredits
  refine endsLike_bind hcredits fun outcome => ?_
  exact endsLike_bind (endsLike_self _) fun _ => endsLike_done rfl

/-! ### Entries found by player -/

/-- What an entry says of a payment: how much to whom, and what became of it. -/
def DistributionEntry.outcome (entry : DistributionEntry) :
    PrizeCalculation × DistributionEntryStatus :=
  (entry.toPrizeCalculation, entry.status)

/-- An entry that waits for its credit. -/
def pendingEntry (dist : PrizeCalculation) : DistributionEntry := { dist with status := .pending }

/-- How an entry should be marked. -/
def settledEntry (dist : PrizeCalculation) (ok : Bool) :
    PrizeCalculation × DistributionEntryStatus :=
  (dist, if ok then .completed else .failed)

/-- A pending entry behind another entry of the same player. -/
def Shadowed (entries : List DistributionEntry) : Prop :=
  ∃ before entry after, entries = before ++ entry :: after ∧
    entry.playerId ∈ before.map (fun e => e.playerId) ∧ entry.status = .pending

section Entries

variable {playerId : String} {change : DistributionEntry → DistributionEntry}
  {before after : List DistributionEntry} {entry : DistributionEntry}

/-- An entry before the player's first one is not reached. -/
theorem changeEntry_skip (h : playerId ∉ before.map fun e => e.playerId) :
    changeEntry playerId change (before ++ after) =
      before ++ changeEntry playerId change after := by
  induction before with
  | nil => rfl
  | cons e before ih =>
      rw [List.map_cons, List.mem_cons, not_or] at h
      rw [List.cons_append, changeEntry, if_neg fun heq => h.1 heq.symm, ih h.2, List.cons_append]

/-- An entry behind the player's first one is not reached. -/
theorem changeEntry_stop (h : playerId ∈ before.map fun e => e.playerId) :
    changeEntry playerId change (before ++ after) =
      changeEntry playerId change before ++ after := by
  induction before with
  | nil => exact absurd h List.not_mem_nil
  | cons e before ih =>
      by_cases heq : e.playerId = playerId
      · rw [List.cons_append, changeEntry, changeEntry, if_pos heq, if_pos heq, List.cons_append]
      · rw [List.map_cons, List.mem_cons] at h
        rw [List.cons_append, changeEntry, changeEntry, if_neg heq, if_neg heq,
          ih (h.resolve_left fun h => heq h.symm), List.cons_append]

theorem changeEntry_players (hchange : ∀ e, (change e).playerId = e.playerId)
    (entries : List DistributionEntry) :
    (changeEntry playerId change entries).map (fun e => e.playerId) =
      entries.map fun e => e.playerId := by
  induction entries with
  | nil => rfl
  | cons e entries ih =>
      unfold changeEntry
      by_cases heq : e.playerId = playerId
      · rw [if_pos heq, List.map_cons, List.map_cons, hchange]
      · rw [if_neg heq, List.map_cons, List.map_cons, ih]

theorem changeEntry_shadowed (hchange : ∀ e, (change e).playerId = e.playerId)
    {entries : List DistributionEntry} (h : Shadowed entries) :
    Shadowed (changeEntry playerId change entries) := by
  rcases h with ⟨before, entry, after, rfl, hplayer, hpending⟩
  by_cases hfirst : playerId ∈ before.map fun e => e.playerId
  · refine ⟨changeEntry playerId change before, entry, after, changeEntry_stop hfirst, ?_, hpending⟩
    rw [changeEntry_players hchange]
    exact hplayer
  · -- The change goes past the entry as well, which has another player.
    have hne : entry.playerId ≠ playerId := fun heq => hfirst (heq ▸ hplayer)
    refine ⟨before, entry, changeEntry playerId change after, ?_, hplayer, hpending⟩
    rw [changeEntry_skip hfirst, changeEntry, if_neg hne]

/-- Two entries of one player shadow one of them. -/
theorem shadowed_of_repeated {dists : List PrizeCalculation}
    (h : ¬(dists.map PrizeCalculation.playerId).Nodup) : Shadowed (dists.map pendingEntry) := by
  induction dists with
  | nil => exact absurd List.nodup_nil h
  | cons dist rest ih =>
      -- Either the first entry is the repeated one, or the rest has one.
      by_cases hmem : dist.playerId ∈ rest.map PrizeCalculation.playerId
      · rcases List.mem_map.mp hmem with ⟨other, hother, hplayer⟩
        rcases List.append_of_mem hother with ⟨left, right, rfl⟩
        refine ⟨pendingEntry dist :: left.map pendingEntry, pendingEntry other,
          right.map pendingEntry, ?_, ?_, rfl⟩
        · rw [List.map_cons, List.map_append, List.map_cons, List.cons_append]
        · rw [List.map_cons, List.mem_cons]
          exact Or.inl hplayer
      · have hrest : ¬(rest.map PrizeCalculation.playerId).Nodup := by
          intro hnodup
          exact h (List.nodup_cons.mpr ⟨hmem, hnodup⟩)
        rcases ih hrest with ⟨before, entry, after, hsplit, hplayer, hpending⟩
        refine ⟨pendingEntry dist :: before, entry, after, ?_, ?_, hpending⟩
        · rw [List.map_cons, hsplit, List.cons_append]
        · rw [List.map_cons, List.mem_cons]
          exact Or.inr hplayer

end Entries

/-! ### What the credits do -/

/-- The mark writes the prize of a player into the player's own row. -/
structure MarksPrize (mark : PrizeCalculation → Service Unit) (won : Db → String → Option Int) :
    Prop where
  marked : ∀ dist s, ((mark dist).eval s).1 = .ok () ∧
    won ((mark dist).eval s).2 = fun playerId =>
      if playerId = dist.playerId then (won s playerId).map fun _ => dist.amount
      else won s playerId
  frame : ∀ s t : Db, t.participants = s.participants → t.registrations = s.registrations →
    won t = won s

/-- The payments whose credit succeeded. -/
def succeeded (dists : List PrizeCalculation) (oks : List Bool) : List PrizeCalculation :=
  ((dists.zip oks).filter Prod.snd).map Prod.fst

/-- The payments to a player whose credit succeeded. -/
def succeededTo (playerId : String) (dists : List PrizeCalculation) (oks : List Bool) :
    List PrizeCalculation :=
  (succeeded dists oks).filter fun d => d.playerId = playerId

section Credits

variable {source : SourceId} {mark : PrizeCalculation → Service Unit}
  {won : Db → String → Option Int} {entries : List (PrizeCalculation × (Nat → Bool))}

theorem succeededTo_cons {dist : PrizeCalculation} {ok : Bool} {rest : List PrizeCalculation}
    {oks : List Bool} (playerId : String) : succeededTo playerId (dist :: rest) (ok :: oks) =
      if ok = true ∧ dist.playerId = playerId then dist :: succeededTo playerId rest oks
      else succeededTo playerId rest oks := by
  unfold succeededTo succeeded
  cases ok with
  | false => simp
  | true =>
      by_cases hplayer : dist.playerId = playerId
      · simp [hplayer]
      · simp [hplayer]

theorem succeededTo_absent {playerId : String} {dists : List PrizeCalculation} {oks : List Bool}
    (h : playerId ∉ dists.map PrizeCalculation.playerId) : succeededTo playerId dists oks = [] := by
  unfold succeededTo succeeded
  rw [List.filter_eq_nil_iff]
  intro d hd hplayer
  rcases List.mem_map.mp hd with ⟨pair, hpair, rfl⟩
  have hmem := List.of_mem_zip (List.mem_of_mem_filter hpair)
  exact h (List.mem_map.mpr ⟨pair.1, hmem.1, of_decide_eq_true hplayer⟩)

/-- A credit that succeeds writes the prize, and one that fails does not. -/
theorem creditOneAgainst_ensures (hmark : MarksPrize mark won) (refusals : Nat → Bool)
    (dist : PrizeCalculation) (s : Db) :
    (creditOneAgainst refusals source mark dist).Ensures False s fun r t => match r with
      | .ok _ => won t = fun playerId =>
          if playerId = dist.playerId then (won s playerId).map fun _ => dist.amount
          else won s playerId
      | .error _ => won t = won s := by
  -- The credit itself writes no prize, whether it fails or not.
  have hcredit : (creditPrize dist.playerId dist.amount source).Ensures True s fun _ t =>
      won t = won s := by
    refine ensures_mono (moveFunds_ensures ..) fun r t ht => ?_
    cases r with
    | ok tx =>
        rcases ht with ⟨wallet, -, -, -, rfl⟩
        exact hmark.frame _ _ rfl rfl
    | error e =>
        rcases ht.1 with rfl | ⟨-, wallet, rfl⟩
        · rfl
        · exact hmark.frame _ _ rfl rfl
  unfold creditOneAgainst
  refine ensures_bind (ensures_against ?_)
  rcases hrun : (creditPrize dist.playerId dist.amount source).run refusals s with ⟨r, t, o⟩
  have hwon := ensures_run hcredit refusals (Or.inr trivial)
  rw [hrun] at hwon
  cases r with
  | error e => exact hwon
  | ok tx =>
      -- Only the mark after it does.
      have hmarked := hmark.marked dist t
      refine (ensures_false_iff ..).mpr ?_
      rw [hmarked.1]
      simp only
      rw [hmarked.2]
      simp only at hwon
      rw [hwon]

/-- When the entry of the first player is changed, those of the rest are still
    to be marked. -/
theorem changeEntry_next {dist : PrizeCalculation} {rest : List (PrizeCalculation × (Nat → Bool))}
    {before distributions : List DistributionEntry}
    {change : DistributionEntry → DistributionEntry}
    (hchange : ∀ e, (change e).playerId = e.playerId)
    (hdistributions : distributions =
      before ++ pendingEntry dist :: rest.map fun e => pendingEntry e.1)
    (hfresh : dist.playerId ∉ rest.map fun e => e.1.playerId)
    (hskip : dist.playerId ∉ before.map fun e => e.playerId)
    (hapart : ∀ e ∈ rest, e.1.playerId ∉ before.map fun e => e.playerId) :
    changeEntry dist.playerId change distributions =
      (before ++ [change (pendingEntry dist)]) ++ rest.map (fun e => pendingEntry e.1) ∧
    ∀ e ∈ rest, e.1.playerId ∉
      (before ++ [change (pendingEntry dist)]).map fun e => e.playerId := by
  constructor
  · rw [hdistributions, changeEntry_skip hskip, changeEntry,
      if_pos (show (pendingEntry dist).playerId = dist.playerId from rfl), List.append_assoc]
    rfl
  · intro e he hmem
    rw [List.map_append, List.mem_append, List.map_singleton, List.mem_singleton, hchange] at hmem
    rcases hmem with hbefore | hsame
    · exact hapart e he hbefore
    · exact hfresh (List.mem_map.mpr ⟨e, he, hsame⟩)

/-- A credit that failed pays nobody. -/
theorem succeededTo_false {dist : PrizeCalculation} {rest : List PrizeCalculation}
    {oks : List Bool} (playerId : String) :
    succeededTo playerId (dist :: rest) (false :: oks) = succeededTo playerId rest oks := by
  rw [succeededTo_cons, if_neg fun h => Bool.false_ne_true h.1]

/-- A credit that succeeded pays its own player. -/
theorem succeededTo_own {dist : PrizeCalculation} {rest : List PrizeCalculation}
    {oks : List Bool} (habsent : dist.playerId ∉ rest.map PrizeCalculation.playerId) :
    succeededTo dist.playerId (dist :: rest) (true :: oks) = [dist] := by
  rw [succeededTo_cons, if_pos ⟨rfl, rfl⟩, succeededTo_absent habsent]

theorem succeededTo_other {dist : PrizeCalculation} {rest : List PrizeCalculation}
    {oks : List Bool} {playerId : String} (hplayer : playerId ≠ dist.playerId) :
    succeededTo playerId (dist :: rest) (true :: oks) = succeededTo playerId rest oks := by
  rw [succeededTo_cons, if_neg fun h => hplayer h.2.symm]

theorem sum_succeeded_true (dist : PrizeCalculation) (rest : List PrizeCalculation)
    (oks : List Bool) :
    ((succeeded (dist :: rest) (true :: oks)).map PrizeCalculation.amount).sum =
      dist.amount + ((succeeded rest oks).map PrizeCalculation.amount).sum := by
  unfold succeeded
  rw [List.zip_cons_cons, List.filter_cons_of_pos rfl, List.map_cons, List.map_cons, List.sum_cons]

theorem succeeded_false (dist : PrizeCalculation) (rest : List PrizeCalculation)
    (oks : List Bool) : succeeded (dist :: rest) (false :: oks) = succeeded rest oks := by
  unfold succeeded
  rw [List.zip_cons_cons, List.filter_cons_of_neg Bool.false_ne_true]

/-- Crediting marks each of the entries whose players are pairwise different
    with its own outcome, adds up what was credited, and writes the prizes. -/
theorem creditAllAgainst_record (source : SourceId) (hmark : MarksPrize mark won)
    (record : PrizeDistribution) (total : Int) (s : Db) {before : List DistributionEntry}
    (hrecord : record.distributions = before ++ entries.map fun e => pendingEntry e.1)
    (hnodup : (entries.map fun e => e.1.playerId).Nodup)
    (hapart : ∀ e ∈ entries, e.1.playerId ∉ before.map fun e => e.playerId) :
    (creditAllAgainst source mark entries record total).Ensures False s fun r t =>
      ∃ record' oks, r = .ok (record', total +
          ((succeeded (entries.map Prod.fst) oks).map PrizeCalculation.amount).sum, oks) ∧
        oks.length = entries.length ∧
        record'.distributions.map DistributionEntry.outcome =
          before.map DistributionEntry.outcome ++
            List.zipWith settledEntry (entries.map Prod.fst) oks ∧
        ∀ playerId, won t playerId =
          if succeededTo playerId (entries.map Prod.fst) oks = [] then won s playerId
          else (won s playerId).map fun _ => ((succeededTo playerId (entries.map Prod.fst) oks).map
            PrizeCalculation.amount).sum := by
  induction entries generalizing record total s before with
  | nil =>
      refine ⟨record, [], ?_, rfl, ?_, fun _ => rfl⟩
      · exact congrArg (fun n => Except.ok (record, n, [])) (Int.add_zero total).symm
      · rw [hrecord]
        simp only [List.map_nil, List.append_nil, List.zipWith_nil_left]
  | cons entry rest ih =>
      rcases entry with ⟨dist, refusals⟩
      rw [List.map_cons, List.nodup_cons] at hnodup
      have hskip := hapart (dist, refusals) (List.mem_cons_self ..)
      have hfresh : dist.playerId ∉ (rest.map Prod.fst).map PrizeCalculation.playerId := by
        rw [List.map_map]
        exact hnodup.1
      -- Whatever becomes of this credit, its entry is the one that is marked.
      have hnext : ∀ change : DistributionEntry → DistributionEntry,
          (∀ e, (change e).playerId = e.playerId) → _ := fun change hchange =>
        changeEntry_next hchange hrecord hnodup.1 hskip fun e he =>
          hapart e (List.mem_cons_of_mem _ he)
      unfold creditAllAgainst
      refine ensures_bind (ensures_rescue (ensures_bind ?_))
      refine ensures_mono (creditOneAgainst_ensures hmark refusals dist s) fun r t ht => ?_
      cases r with
      | ok _ =>
          have hstep := hnext (fun entry => { entry with status := .completed }) fun _ => rfl
          have hrest := ih (record.entryCompleted dist.playerId) (total + dist.amount) t hstep.1
            hnodup.2 hstep.2
          refine ensures_bind (ensures_mono hrest fun r u hu => ?_)
          rcases hu with ⟨record', oks, rfl, hlength, hview, hwon⟩
          refine ⟨record', true :: oks, ?_, ?_, ?_, fun playerId => ?_⟩
          · refine congrArg (fun n => Except.ok (record', n, true :: oks)) ?_
            rw [List.map_cons, sum_succeeded_true, Int.add_assoc]
          · rw [List.length_cons, List.length_cons, hlength]
          · rw [hview, List.map_append, List.append_assoc]
            rfl
          · rw [hwon, ht, List.map_cons]
            by_cases hplayer : playerId = dist.playerId
            · subst hplayer
              rw [succeededTo_own hfresh, succeededTo_absent hfresh]
              simp
            · rw [succeededTo_other hplayer]
              simp only [if_neg hplayer]
      | error e =>
          have hstep := hnext (fun entry =>
            { entry with status := .failed, failureReason := some e.message }) fun _ => rfl
          have hrest := ih (record.entryFailed dist.playerId e) total t hstep.1 hnodup.2 hstep.2
          refine ensures_bind (ensures_mono hrest fun r u hu => ?_)
          rcases hu with ⟨record', oks, rfl, hlength, hview, hwon⟩
          refine ⟨record', false :: oks, ?_, ?_, ?_, fun playerId => ?_⟩
          · refine congrArg (fun n => Except.ok (record', n, false :: oks)) ?_
            rw [List.map_cons, succeeded_false]
          · rw [List.length_cons, List.length_cons, hlength]
          · rw [hview, List.map_append, List.append_assoc]
            rfl
          · rw [hwon, ht, List.map_cons, succeededTo_false]

/-- A shadowed entry is never marked. -/
theorem creditAllAgainst_shadowed (record : PrizeDistribution) (total : Int) (s : Db)
    (h : Shadowed record.distributions) :
    (creditAllAgainst source mark entries record total).Ensures False s fun r _ =>
      ∀ outcome, r = .ok outcome → Shadowed outcome.1.distributions := by
  -- On the entries: whatever becomes of one, its change keeps the shadowed entry
  -- pending.
  induction entries generalizing record total s with
  | nil =>
      intro outcome heq
      rw [← Except.ok.inj heq]
      exact h
  | cons entry rest ih =>
      rcases entry with ⟨dist, refusals⟩
      have hrest : ∀ record' total' t b, Shadowed record'.distributions →
          ((creditAllAgainst source mark rest record' total').bind fun outcome =>
            done (outcome.1, outcome.2.1, b :: outcome.2.2)).Ensures False t fun r _ =>
              ∀ outcome, r = .ok outcome → Shadowed outcome.1.distributions := by
        intro record' total' t b hshadowed
        refine ensures_map (ensures_mono (ih _ _ _ hshadowed) fun r u hu outcome heq => ?_)
        cases r with
        | error e => exact nomatch heq
        | ok inner =>
            obtain rfl := Except.ok.inj heq
            exact hu inner rfl
      unfold creditAllAgainst
      refine ensures_bind (ensures_rescue (ensures_bind ?_))
      refine ensures_mono (ensures_trivial _ s) fun r t _ => ?_
      have hkeep : ∀ change : DistributionEntry → DistributionEntry,
          (∀ e, (change e).playerId = e.playerId) →
          Shadowed (changeEntry dist.playerId change record.distributions) :=
        fun change hchange => changeEntry_shadowed hchange h
      cases r with
      | ok _ =>
          exact hrest (record.entryCompleted dist.playerId) (total + dist.amount) t true
            (hkeep (fun entry => { entry with status := .completed }) fun _ => rfl)
      | error e =>
          exact hrest (record.entryFailed dist.playerId e) total t false
            (hkeep (fun entry =>
              { entry with status := .failed, failureReason := some e.message }) fun _ => rfl)

end Credits

/-! ### Whether the record tells the truth -/

/-- The record marks every entry with the outcome of its own credit, adds up
    the completed ones and is completed when all are, and a player who had won
    nothing has won what was credited to him. -/
structure Truthful (record : PrizeDistribution) (oks : List Bool)
    (won won' : String → Option Int) : Prop where
  statuses : (record.distributions.map fun e => e.status) =
    oks.map fun ok => if ok then .completed else .failed
  distributed : record.distributedAmount =
    ((record.distributions.filter fun e => e.status = .completed).map fun e => e.amount).sum
  completed : record.status = .COMPLETED ↔ ∀ ok ∈ oks, ok = true
  prizeWon : ∀ playerId, won playerId = some 0 → won' playerId =
    some ((succeededTo playerId (record.distributions.map fun e => e.toPrizeCalculation) oks).map
      PrizeCalculation.amount).sum

/-- The entries of the record that are marked with their outcomes. -/
theorem outcomes_of_record {entries : List DistributionEntry} {dists : List PrizeCalculation}
    {oks : List Bool} (hlength : oks.length = dists.length)
    (h : entries.map DistributionEntry.outcome = List.zipWith settledEntry dists oks) :
    (entries.map fun e => e.toPrizeCalculation) = dists ∧
    (entries.map fun e => e.status) = (oks.map fun ok => if ok then .completed else .failed) ∧
    (entries.filter fun e => e.status = .completed).map (fun e => e.amount) =
      (succeeded dists oks).map PrizeCalculation.amount := by
  -- The three lists are as long as each other, so they are taken apart together.
  induction entries generalizing dists oks with
  | nil =>
      cases dists with
      | nil =>
          obtain rfl : oks = [] := List.length_eq_zero_iff.mp hlength
          exact ⟨rfl, rfl, rfl⟩
      | cons dist dists =>
          cases oks with
          | nil => exact nomatch hlength
          | cons ok oks => exact nomatch h
  | cons entry entries ih =>
      cases dists with
      | nil => exact nomatch h
      | cons dist dists =>
          cases oks with
          | nil => exact nomatch hlength
          | cons ok oks =>
              rw [List.map_cons, List.zipWith_cons_cons, List.cons.injEq] at h
              have hrest := ih (Nat.succ.inj hlength) h.2
              have hdist : entry.toPrizeCalculation = dist := congrArg Prod.fst h.1
              have hstatus : entry.status = if ok then .completed else .failed :=
                congrArg Prod.snd h.1
              refine ⟨?_, ?_, ?_⟩
              · rw [List.map_cons, hdist, hrest.1]
              · rw [List.map_cons, List.map_cons, hstatus, hrest.2.1]
              · cases ok with
                | true =>
                    -- A credited entry is counted on both sides.
                    have hcompleted : entry.status = .completed := hstatus
                    have hone : succeeded (dist :: dists) (true :: oks) =
                        dist :: succeeded dists oks := rfl
                    rw [List.filter_cons_of_pos
                      (p := fun e : DistributionEntry => e.status = .completed)
                      (decide_eq_true hcompleted), List.map_cons, hone, List.map_cons,
                      hrest.2.2, ← hdist]
                | false =>
                    -- A failed one on neither.
                    have hfailed : entry.status ≠ .completed := by
                      rw [hstatus]
                      exact nofun
                    have hnone : succeeded (dist :: dists) (false :: oks) =
                        succeeded dists oks := rfl
                    rw [List.filter_cons_of_neg
                      (p := fun e : DistributionEntry => e.status = .completed)
                      (by simpa using hfailed), hnone, hrest.2.2]

/-- A record whose entries are marked with the outcomes is fully distributed when
    every credit has succeeded. -/
theorem isFullyDistributed_iff {record : PrizeDistribution} {oks : List Bool}
    (h : (record.distributions.map fun e => e.status) =
      oks.map fun ok => if ok then .completed else .failed) :
    record.isFullyDistributed = true ↔ ∀ ok ∈ oks, ok = true := by
  unfold PrizeDistribution.isFullyDistributed
  have hmap : (record.distributions.all fun d => d.status = .completed) =
      ((record.distributions.map fun e => e.status).all fun x => x = .completed) := by
    rw [List.all_map]
    rfl
  rw [hmap, h, List.all_map, List.all_eq_true]
  refine forall₂_congr fun ok _ => ?_
  cases ok <;> simp

/-- A record tells the truth when it is settled after its entries were marked with
    the outcomes and the prizes written. -/
theorem truthful_settled {record : PrizeDistribution} {dists : List PrizeCalculation}
    {oks : List Bool} {won won' : String → Option Int} (hlength : oks.length = dists.length)
    (houtcomes : record.distributions.map DistributionEntry.outcome =
      List.zipWith settledEntry dists oks)
    (hwon : ∀ playerId, won' playerId =
      if succeededTo playerId dists oks = [] then won playerId
      else (won playerId).map fun _ => ((succeededTo playerId dists oks).map
        PrizeCalculation.amount).sum) :
    Truthful
      { record with
        distributedAmount := 0 + ((succeeded dists oks).map PrizeCalculation.amount).sum
        status := if record.isFullyDistributed then .COMPLETED else .PARTIAL }
      oks won won' := by
  have hentries := outcomes_of_record hlength houtcomes
  refine ⟨hentries.2.1, ?_, ?_, fun playerId hzero => ?_⟩
  · simp only [Int.zero_add]
    rw [hentries.2.2]
  · -- The status says whether all were credited.
    have hall := isFullyDistributed_iff hentries.2.1
    by_cases hfull : record.isFullyDistributed = true
    · simp only [hfull, if_true, true_iff]
      exact hall.mp hfull
    · simp only [hfull, Bool.false_eq_true, if_false, reduceCtorEq, false_iff]
      exact fun h => hfull (hall.mpr h)
  · -- And the prize of a player is what was credited to them.
    rw [hwon, hzero]
    simp only [hentries.1]
    by_cases hnone : succeededTo playerId dists oks = []
    · rw [if_pos hnone, hnone]
      rfl
    · rw [if_neg hnone]
      rfl

/-- A shadowed entry is neither completed nor failed. -/
theorem not_truthful_of_shadowed {record : PrizeDistribution} {oks : List Bool}
    {won won' : String → Option Int} (h : Shadowed record.distributions) :
    ¬Truthful record oks won won' := by
  intro htrue
  rcases h with ⟨before, entry, after, hsplit, -, hpending⟩
  have hmem : DistributionEntryStatus.pending ∈
      oks.map fun ok => if ok then DistributionEntryStatus.completed else .failed := by
    rw [← htrue.statuses, hsplit]
    exact List.mem_map.mpr
      ⟨entry, List.mem_append_right _ (List.mem_cons_self ..), hpending⟩
  rcases List.mem_map.mp hmem with ⟨ok, -, hok⟩
  cases ok with
  | true => exact nomatch hok
  | false => exact nomatch hok

/-! ### Settling a payout -/

section Settling

variable {payout : Payout} {won : Db → String → Option Int} {record : PrizeDistribution}
  {dists : List PrizeCalculation}

/-- What a payout does once the prizes are released. -/
def settleAgainst (refusals : Nat → Nat → Bool) (payout : Payout) (id : Nat)
    (record : PrizeDistribution) (dists : List PrizeCalculation) :
    Service (PrizeDistribution × List Bool) := do
  let outcome ← creditAllAgainst payout.source payout.mark
    (dists.zipIdx.map fun d => (d.1, refusals d.2)) record 0
  let settled : PrizeDistribution :=
    { outcome.1 with
      distributedAmount := outcome.2.1
      -- The status looks at the entries only.
      status := if outcome.1.isFullyDistributed then .COMPLETED else .PARTIAL }
  (prizeRepository.save id settled).onError (failDistribution id settled)
  pure (settled, outcome.2.2)

/-- Beside their patterns of refusals the payments are what they are. -/
theorem map_numbered {α : Type} (refusals : Nat → Nat → Bool) (dists : List PrizeCalculation)
    (f : PrizeCalculation → α) :
    ((dists.zipIdx.map fun d => (d.1, refusals d.2)).map fun e => f e.1) = dists.map f := by
  have hpayments : (dists.zipIdx.map fun d => (d.1, refusals d.2)).map Prod.fst = dists := by
    rw [List.map_map]
    exact List.zipIdx_map_fst 0 dists
  calc ((dists.zipIdx.map fun d => (d.1, refusals d.2)).map fun e => f e.1)
      = (((dists.zipIdx.map fun d => (d.1, refusals d.2)).map Prod.fst).map f) := by
        rw [List.map_map (g := f)]
        rfl
    _ = dists.map f := by rw [hpayments]

/-- With pairwise different recipients the record tells the truth. -/
theorem settleAgainst_distinct (refusals : Nat → Nat → Bool) (id : Nat) (s : Db)
    (hmark : MarksPrize payout.mark won) (hrecord : record.distributions = dists.map pendingEntry)
    (hnodup : (dists.map PrizeCalculation.playerId).Nodup) :
    (settleAgainst refusals payout id record dists).Ensures False s fun r t =>
      ∀ settled oks, r = .ok (settled, oks) → Truthful settled oks (won s) (won t) := by
  have hpayments : (dists.zipIdx.map fun d => (d.1, refusals d.2)).map Prod.fst = dists :=
    (map_numbered refusals dists fun dist => dist).trans (List.map_id dists)
  have hpending : record.distributions = [] ++
      (dists.zipIdx.map fun d => (d.1, refusals d.2)).map fun e => pendingEntry e.1 := by
    rw [map_numbered refusals dists pendingEntry]
    exact hrecord
  have hplayers := map_numbered refusals dists PrizeCalculation.playerId
  have hcredits := creditAllAgainst_record payout.source hmark record 0 s hpending
    (hplayers ▸ hnodup) fun _ _ => List.not_mem_nil
  refine ensures_bind (ensures_mono hcredits fun r v hv => ?_)
  rcases hv with ⟨record', oks, rfl, hlength, houtcomes, hwon⟩
  rw [hpayments] at houtcomes hwon
  rw [List.length_map, List.length_zipIdx] at hlength
  refine ensures_bind (ensures_onError (ensures_perform ?_ fun hfalse => hfalse.elim))
  intro settled oks' heq
  obtain ⟨rfl, rfl⟩ := Prod.mk.inj (Except.ok.inj heq)
  -- Saving the record does not touch the prizes of the players.
  have hframe : ∀ prizes, won (v.withPrizes prizes) = won v :=
    fun prizes => hmark.frame _ _ rfl rfl
  rw [hpayments]
  exact truthful_settled hlength houtcomes fun playerId =>
    (congrFun (hframe _) playerId).trans (hwon playerId)

/-- With a recipient who is paid twice it does not. -/
theorem settleAgainst_repeated (refusals : Nat → Nat → Bool) (id : Nat) (s : Db)
    (hrecord : record.distributions = dists.map pendingEntry)
    (hnodup : ¬(dists.map PrizeCalculation.playerId).Nodup) :
    (settleAgainst refusals payout id record dists).Ensures False s fun r t =>
      ∀ settled oks, r = .ok (settled, oks) → ¬Truthful settled oks (won s) (won t) := by
  have hshadowed : Shadowed record.distributions := by
    rw [hrecord]
    exact shadowed_of_repeated hnodup
  -- The second entry of a player stays pending, so one outcome is not in the record.
  refine ensures_bind (ensures_mono (creditAllAgainst_shadowed record 0 s hshadowed)
    fun r v hv => ?_)
  cases r with
  | error e => exact fun _ _ heq => nomatch heq
  | ok outcome =>
      refine ensures_bind (ensures_onError (ensures_perform ?_ fun hfalse => hfalse.elim))
      intro settled oks heq
      obtain ⟨rfl, rfl⟩ := Prod.mk.inj (Except.ok.inj heq)
      exact not_truthful_of_shadowed (hv outcome rfl)

theorem settleAgainst_ensures (refusals : Nat → Nat → Bool) (id : Nat) (s : Db)
    (hmark : MarksPrize payout.mark won)
    (hrecord : record.distributions = dists.map pendingEntry) :
    (settleAgainst refusals payout id record dists).Ensures False s fun r t =>
      ∀ settled oks, r = .ok (settled, oks) →
        (Truthful settled oks (won s) (won t) ↔ (dists.map PrizeCalculation.playerId).Nodup) := by
  by_cases hnodup : (dists.map PrizeCalculation.playerId).Nodup
  · exact ensures_mono (settleAgainst_distinct refusals id s hmark hrecord hnodup)
      fun r t htrue settled oks heq => iff_of_true (htrue settled oks heq) hnodup
  · exact ensures_mono (settleAgainst_repeated refusals id s hrecord hnodup)
      fun r t hfalse settled oks heq => iff_of_false (hfalse settled oks heq) hnodup

/-- A payout that returns has calculated its payments. Its record tells the
    truth exactly when their players are pairwise different. -/
theorem distributeAgainst_ensures (payout : Payout) (refusals : Nat → Nat → Bool) (s : Db)
    {won : Db → String → Option Int} (hmark : MarksPrize payout.mark won) :
    (distributeAgainst refusals payout).Ensures False s fun r t => ∀ record oks,
      r = .ok (record, oks) → ∃ amount dists, payout.calculate amount = .ok dists ∧
        (Truthful record oks (won s) (won t) ↔
          (dists.map PrizeCalculation.playerId).Nodup) := by
  unfold distributeAgainst
  refine ensures_bind (ensures_mono (getEscrowBySource_ensures payout.source s) fun r t h => ?_)
  rcases h with ⟨rfl, -⟩
  cases r with
  | error e => exact fun _ _ heq => nomatch heq
  | ok escrow =>
  refine ensures_bind (ensures_mono (getEscrowById_ensures escrow.escrowId t) fun r u h => ?_)
  rcases h with ⟨rfl, -⟩
  cases r with
  | error e => exact fun _ _ heq => nomatch heq
  | ok escrowBalance =>
  refine ensures_bind (ensures_compute ?_)
  generalize hcalc : payout.calculate (escrowBalance.currentBalance -
    platformFeeOf escrowBalance.currentBalance payout.platformFeePercent) = calculated
  cases calculated with
  | error e => exact fun _ _ heq => nomatch heq
  | ok dists =>
  refine ensures_bind (ensures_perform ?_ fun hfalse => hfalse.elim)
  refine ensures_bind (ensures_onError (ensures_mono (releaseEscrow_ensures _ _) fun r w hw => ?_))
  cases r with
  | error e =>
      -- The record of a payout that released nothing is not returned.
      refine ensures_mono (ensures_trivial _ w) fun r' v _ => ?_
      cases r' with
      | ok _ => exact fun _ _ heq => nomatch heq
      | error e' => exact fun _ _ heq => nomatch heq
  | ok txs =>
  have hframe : won w = won u := by
    rcases hw with ⟨found, fee, -, -, -, -, rfl⟩
    exact hmark.frame _ _ rfl rfl
  rw [← hframe]
  exact ensures_mono (settleAgainst_ensures refusals _ w hmark rfl)
    fun r v hsettled settled oks heq => ⟨_, dists, hcalc, hsettled settled oks heq⟩

end Settling

/-! ### Matches and tournaments -/

/-- The prize in the row of a participant. -/
def Db.matchPrize (db : Db) (matchId playerId : String) : Option Int :=
  (db.participants.findOne (matchId, playerId)).map MatchParticipant.prizeWon

/-- The prize in the row of a registration. -/
def Db.tournamentPrize (db : Db) (tournamentId playerId : String) : Option Int :=
  (db.registrations.findOne (tournamentId, playerId)).map TournamentRegistration.prizeWon

/-- The prize is overwritten in the row of the player who is paid. -/
theorem findOne_update_prize {V : Type} {key : V → String × String} (t : Table key)
    (hex payee : String) (f : V → V) (hf : ∀ v, key (f v) = key v) (prize : V → Int) {amount : Int}
    (hprize : ∀ v, prize (f v) = amount) (playerId : String) :
    ((t.update (fun v => key v = (hex, payee)) f hf).findOne (hex, playerId)).map prize =
      if playerId = payee then ((t.findOne (hex, playerId)).map prize).map fun _ => amount
      else (t.findOne (hex, playerId)).map prize := by
  rw [Table.findOne_update]
  cases hfind : t.findOne (hex, playerId) with
  | none => simp
  | some v =>
      have hkey : key v = (hex, playerId) := Table.key_of_findOne hfind
      by_cases hplayer : playerId = payee
      · simp [hkey, hplayer, hprize]
      · simp [hkey, hplayer]

theorem markParticipant_marks (matchId : String) :
    MarksPrize (markParticipant matchId) fun db => db.matchPrize matchId := by
  constructor
  · intro dist s
    refine ⟨rfl, ?_⟩
    ext1 playerId
    exact findOne_update_prize s.participants matchId dist.playerId
      (fun p => { p with prizeWon := dist.amount }) (fun _ => rfl) MatchParticipant.prizeWon
      (fun _ => rfl) playerId
  · intro s t hparticipants _
    ext1 playerId
    unfold Db.matchPrize
    rw [hparticipants]

theorem markRegistration_marks (tournamentId : String) :
    MarksPrize (markRegistration tournamentId) fun db => db.tournamentPrize tournamentId := by
  constructor
  · intro dist s
    refine ⟨rfl, ?_⟩
    ext1 playerId
    exact findOne_update_prize s.registrations tournamentId dist.playerId
      (fun r => { r with prizeWon := dist.amount, finalPlacement := some dist.placement })
      (fun _ => rfl) TournamentRegistration.prizeWon (fun _ => rfl) playerId
  · intro s t _ hregistrations
    ext1 playerId
    unfold Db.tournamentPrize
    rw [hregistrations]

/-- The players the entries of a match pay, in order. -/
def matchRecipients (m : Match) (participants : List MatchParticipant) : List String :=
  match m.result with
  | none => []
  | some result =>
    if result.winnerIds.isEmpty then []
    else m.payoutStructure.filterMap fun entry =>
      (matchRecipient result participants (rankParticipantsByResult m participants) entry).map
        MatchParticipant.playerId

/-- The players the entries of a tournament pay, in order. -/
def tournamentRecipients (t : Tournament) (registrations : List TournamentRegistration) :
    List String :=
  t.prizeStructure.filterMap fun entry =>
    if entry.isMvp then none
    else ((rankedRegistrations registrations).find? fun r =>
      r.finalPlacement = some entry.place).map TournamentRegistration.playerId

theorem matchPayments_players {m : Match} {participants : List MatchParticipant} {amount : Int}
    {dists : List PrizeCalculation}
    (h : calculateMatchDistributionsByStrategy m participants amount = .ok dists) :
    dists.map PrizeCalculation.playerId = matchRecipients m participants := by
  unfold matchRecipients
  cases hresult : m.result with
  | none =>
      rw [calculateMatch_nil _ _ fun result hsome => nomatch hresult.symm.trans hsome] at h
      rw [← Except.ok.inj h]
      rfl
  | some result =>
      -- Without winners nobody is paid.
      by_cases hwinners : result.winnerIds = []
      · rw [calculateMatch_nil _ _ fun result' hsome => ?_] at h
        · rw [← Except.ok.inj h]
          simp [hwinners]
        · rw [hresult] at hsome
          rw [← Option.some.inj hsome]
          exact hwinners
      · rw [calculateMatch_eq hresult hwinners] at h
        simp only [List.isEmpty_iff, hwinners, if_false]
        -- Otherwise each entry has a recipient of its own, or none.
        refine collectPayments_players (fun entry payment hpay => ?_) h
        unfold matchPayment at hpay
        cases hrecipient : matchRecipient result participants
            (rankParticipantsByResult m participants) entry with
        | none =>
            rw [hrecipient] at hpay
            rw [← Except.ok.inj hpay]
            rfl
        | some recipient =>
            rw [hrecipient] at hpay
            cases hshare : percentageShare amount entry.percentage with
            | error e =>
                rw [hshare] at hpay
                exact nomatch hpay
            | ok share =>
                rw [hshare] at hpay
                rw [← Except.ok.inj hpay]
                rfl

theorem tournamentPayments_players {t : Tournament} {registrations : List TournamentRegistration}
    {amount : Int} {dists : List PrizeCalculation}
    (h : calculateTournamentDistributionsByStrategy t registrations amount = .ok dists) :
    dists.map PrizeCalculation.playerId = tournamentRecipients t registrations := by
  -- One entry of the prize structure pays one recipient, or none.
  refine collectPayments_players (fun entry payment hpay => ?_) h
  unfold tournamentPayment at hpay
  cases hmvp : entry.isMvp with
  | true =>
      -- The prize of an MVP is paid to nobody here.
      rw [hmvp] at hpay
      rw [← Except.ok.inj hpay]
      rfl
  | false =>
      rw [hmvp] at hpay
      simp only [Bool.false_eq_true, if_false] at hpay ⊢
      cases hfind : (rankedRegistrations registrations).find? fun r =>
          r.finalPlacement = some entry.place with
      | none =>
          rw [hfind] at hpay
          rw [← Except.ok.inj hpay]
          rfl
      | some registration =>
          rw [hfind] at hpay
          cases hamount : tournamentAmount amount entry with
          | error e =>
              rw [hamount] at hpay
              exact nomatch hpay
          | ok value =>
              rw [hamount] at hpay
              rw [← Except.ok.inj hpay]
              rfl

/-- Whatever happens to each credit, the payout of a match or tournament that
    returns has a record that tells the truth exactly when no player is paid by
    two entries. -/
theorem truthful_iff_distinct (refusals : Nat → Nat → Bool) (s t : Db) (record : PrizeDistribution)
    (oks : List Bool) :
    (∀ m participants,
      (distributeAgainst refusals (matchPayout m participants)).eval s = (.ok (record, oks), t) →
        (distributeMatchPrizes m participants).Ends s (.ok record) t ∧
        (Truthful record oks (s.matchPrize m.matchId) (t.matchPrize m.matchId) ↔
          (matchRecipients m participants).Nodup)) ∧
    ∀ x registrations,
      (distributeAgainst refusals (tournamentPayout x registrations)).eval s =
          (.ok (record, oks), t) →
        (distributeTournamentPrizes x registrations).Ends s (.ok record) t ∧
        (Truthful record oks (s.tournamentPrize x.tournamentId)
            (t.tournamentPrize x.tournamentId) ↔
          (tournamentRecipients x registrations).Nodup) := by
  constructor
  · intro m participants heval
    -- Both parts are the general payout, at the two kinds of recipients.
    have hend := distribute_endsLike refusals (matchPayout m participants) s
    have hensures := (ensures_false_iff ..).mp (distributeAgainst_ensures
      (matchPayout m participants)
      refusals s (markParticipant_marks m.matchId))
    rw [heval] at hend hensures
    rcases hensures record oks rfl with ⟨amount, dists, hcalc, htruth⟩
    rw [matchPayments_players hcalc] at htruth
    exact ⟨hend, htruth⟩
  · intro x registrations heval
    have hend := distribute_endsLike refusals (tournamentPayout x registrations) s
    have hensures := (ensures_false_iff ..).mp (distributeAgainst_ensures
      (tournamentPayout x registrations) refusals s (markRegistration_marks x.tournamentId))
    rw [heval] at hend hensures
    rcases hensures record oks rfl with ⟨amount, dists, hcalc, htruth⟩
    rw [tournamentPayments_players hcalc] at htruth
    exact ⟨hend, htruth⟩

/-- A match for the winner, the second place and the most valuable player. -/
def mvpRequest : CreateMatchRequest where
  hex := "m"
  entryFee := 1000000
  maxPlayers := 3
  prizeStrategy := .PERFORMANCE_MVP

/-- Three players are playing it. -/
def mvpMatch : Db :=
  Db.empty.after (Run.calmly (fundPlayers ["a", "b", "c"] 5000000 ++
    [.createMatch mvpRequest,
     .joinMatch { matchId := "m", playerId := "a" },
     .joinMatch { matchId := "m", playerId := "b" },
     .joinMatch { matchId := "m", playerId := "c" },
     .startMatch "m" 0]))

/-- The first player wins. -/
def mvpResult (mvpPlayerId : String) : SubmitResultRequest where
  matchId := "m"
  winnerIds := ["a"]
  mvpPlayerId := some mvpPlayerId
  now := 1

/-- The match that is paid, and the participants it is paid to. -/
def mvpPaid (mvpPlayerId : String) : Match :=
  afterResult (newMatch mvpRequest) (mvpResult mvpPlayerId)

/-- Who takes part in the match of the witness. -/
def mvpParticipants : List MatchParticipant :=
  mvpMatch.participants.find fun p => p.matchId = "m"

/-- The winner is also the most valuable player. All credits go through, but
    his second entry stays pending, the record says `PARTIAL`, and the bonus has
    replaced the first prize in his row. -/
theorem not_truthful_mvp :
    (let t := (submitResult (mvpResult "a")).eval mvpMatch
     t.1.toBool = true ∧
      t.2.prizes.map (fun record => (record.distributions.map fun e => e.status)) =
        [[.completed, .completed, .pending]] ∧
      t.2.prizes.map PrizeDistribution.status = [.PARTIAL] ∧
      t.2.matchPrize "m" "a" = some 285000 ∧ t.2.creditedTo (matchSource "m") = 2850000) ∧
    ∀ record oks, ((distributeAgainst (fun _ => calm)
        (matchPayout (mvpPaid "a") mvpParticipants)).eval mvpMatch).1 = .ok (record, oks) →
      ∀ won won', ¬Truthful record oks won won' := by
  refine ⟨by decide +kernel, fun record oks heval won won' htrue => ?_⟩
  have hpending : (match ((distributeAgainst (fun _ => calm)
        (matchPayout (mvpPaid "a") mvpParticipants)).eval mvpMatch).1 with
      | .ok x => decide (DistributionEntryStatus.pending ∈ x.1.distributions.map fun e => e.status)
      | .error _ => false) = true := by
    decide +kernel
  rw [heval] at hpending
  have hmem := of_decide_eq_true hpending
  rw [htrue.statuses] at hmem
  rcases List.mem_map.mp hmem with ⟨ok, -, hok⟩
  -- An outcome is completed or failed, and one entry is neither.
  cases ok with
  | true => exact nomatch hok
  | false => exact nomatch hok

/-- The third player is the most valuable one, and the second credit fails. -/
theorem truthful_iff_distinct_mvp : ∃ record oks t,
    (distributeAgainst (fun i => if i = 1 then failAt 2 else calm)
      (matchPayout (mvpPaid "c") mvpParticipants)).eval mvpMatch = (.ok (record, oks), t) ∧
    Truthful record oks (mvpMatch.matchPrize "m") (t.matchPrize "m") := by
  have hok : ((distributeAgainst (fun i => if i = 1 then failAt 2 else calm)
      (matchPayout (mvpPaid "c") mvpParticipants)).eval mvpMatch).1.toBool = true := by
    decide +kernel
  rcases heval : (distributeAgainst (fun i => if i = 1 then failAt 2 else calm)
    (matchPayout (mvpPaid "c") mvpParticipants)).eval mvpMatch with ⟨r, t⟩
  rw [heval] at hok
  cases r with
  | error e => exact nomatch hok
  | ok x =>
      have htruth := ((truthful_iff_distinct _ mvpMatch t x.1 x.2).1 _ _ heval).2
      exact ⟨x.1, x.2, t, rfl, htruth.mpr (by decide +kernel)⟩

end Esports

end SvmCourse
