import SvmCourse.Esports.Agreement
import SvmCourse.Esports.Settling

/-!
# Payability

When a tournament can be paid out, and what the record of its payout says.

Only the entries that find a player are looked at, in the order of the prize
structure. The amount of such an entry has to be readable: a fixed amount must
be the text of an integer, and a percentage that counts must be whole. What is
read must then not exceed the balance of the escrow less its fee. The creation
of a tournament checks neither of the two.

## Main definitions

* `PrizeEntry.amountOf`: What an entry pays, if that can be read.
* `PrizeEntry.isAwarded`: The entry finds a player.
* `Affordable`: The amounts can be read and paid.

## Theorems

* `distribute_ok_iff`: A payout returns unless it is refused.
* `tournamentReturns_iff`: When the payout of a tournament returns.
* `distribute_record`, `record_pays`: What the record of a payout says.
-/

namespace SvmCourse

namespace Esports

open Core Core.Prog

/-! ### Amounts -/

/-- What an entry pays: its fixed amount, if that is an integer, or without one
    its share, if the percentage is whole. -/
def PrizeEntry.amountOf (amount : Int) (entry : PrizeEntry) : Option Int :=
  match orMissing entry.fixedAmount with
  | some fixedAmount => BigInt.bigInt fixedAmount
  | none => if entry.percentage.den = 1 then some (entryShare amount entry) else none

theorem tournamentAmount_of_readable {amount v : Int} {entry : PrizeEntry}
    (h : entry.amountOf amount = some v) : tournamentAmount amount entry = .ok v := by
  unfold PrizeEntry.amountOf at h
  unfold tournamentAmount
  -- A fixed amount is read from its text, and a share needs a whole percentage.
  cases hfixed : orMissing entry.fixedAmount with
  | some fixedAmount =>
      rw [hfixed] at h
      have hread : BigInt.bigInt fixedAmount = some v := h
      simp [bigIntOfText, hread]
  | none =>
      rw [hfixed] at h
      have hshare : (if entry.percentage.den = 1 then some (entryShare amount entry) else none) =
          some v := h
      by_cases hwhole : entry.percentage.den = 1
      · rw [if_pos hwhole] at hshare
        rw [← Option.some.inj hshare]
        exact percentageShare_whole hwhole amount
      · rw [if_neg hwhole] at hshare
        cases hshare

theorem tournamentAmount_of_unreadable {amount : Int} {entry : PrizeEntry}
    (h : entry.amountOf amount = none) : ∃ e, tournamentAmount amount entry = .error e := by
  unfold PrizeEntry.amountOf at h
  unfold tournamentAmount
  -- A fixed amount is tried first, and the percentage only without one.
  cases hfixed : orMissing entry.fixedAmount with
  | some fixedAmount =>
      rw [hfixed] at h
      have hread : BigInt.bigInt fixedAmount = none := h
      exact ⟨_, by simp only [bigIntOfText, hread]; rfl⟩
  | none =>
      rw [hfixed] at h
      have hnot : ¬entry.percentage.den = 1 := by
        intro hwhole
        have hshare : (if entry.percentage.den = 1 then some (entryShare amount entry) else none) =
            none := h
        rw [if_pos hwhole] at hshare
        cases hshare
      exact ⟨_, by simp only [percentageShare, bigIntOfNumber, if_neg hnot]; rfl⟩

/-- The amounts of all entries can be read, and they come to no more than the
    amount there is. -/
structure Affordable (amount : Int) (entries : List PrizeEntry) : Prop where
  readable : ∀ entry ∈ entries, (entry.amountOf amount).isSome = true
  total_le : (entries.filterMap (PrizeEntry.amountOf amount)).sum ≤ amount

instance (amount : Int) (entries : List PrizeEntry) : Decidable (Affordable amount entries) :=
  decidable_of_iff ((∀ entry ∈ entries, (entry.amountOf amount).isSome = true) ∧
      (entries.filterMap (PrizeEntry.amountOf amount)).sum ≤ amount)
    ⟨fun h => ⟨h.1, h.2⟩, fun h => ⟨h.readable, h.total_le⟩⟩

/-! ### Recipients -/

/-- The registration a prize goes to. -/
def tournamentRecipient (registrations : List TournamentRegistration) (entry : PrizeEntry) :
    Option TournamentRegistration :=
  if entry.isMvp then none
  else (rankedRegistrations registrations).find? fun r => r.finalPlacement = some entry.place

/-- Some player has the place of the entry, which is not for the MVP. -/
def PrizeEntry.isAwarded (registrations : List TournamentRegistration) (entry : PrizeEntry) :
    Bool :=
  !entry.isMvp && registrations.any fun r => r.finalPlacement = some entry.place

theorem tournamentRecipient_isSome (registrations : List TournamentRegistration)
    (entry : PrizeEntry) :
    (tournamentRecipient registrations entry).isSome = entry.isAwarded registrations := by
  unfold tournamentRecipient PrizeEntry.isAwarded
  cases entry.isMvp with
  | true => rfl
  | false =>
      rw [if_neg Bool.false_ne_true, ranked_find_isSome]
      rfl

theorem isAwarded_iff {registrations : List TournamentRegistration} {entry : PrizeEntry} :
    entry.isAwarded registrations = true ↔
      ∃ registration, tournamentRecipient registrations entry = some registration := by
  rw [← tournamentRecipient_isSome, Option.isSome_iff_exists]

theorem tournamentRecipient_mem {registrations : List TournamentRegistration} {entry : PrizeEntry}
    {registration : TournamentRegistration}
    (h : tournamentRecipient registrations entry = some registration) :
    registration ∈ registrations ∧ registration.finalPlacement = some entry.place := by
  unfold tournamentRecipient at h
  split at h
  · exact nomatch h
  · have hmem := List.mem_of_find?_eq_some h
    have hplace := List.find?_some h
    unfold rankedRegistrations at hmem
    rw [List.mem_insertionSort, List.mem_filter] at hmem
    exact ⟨hmem.1, of_decide_eq_true hplace⟩

/-- The payment of an entry to a player. -/
def PrizeEntry.paidTo (entry : PrizeEntry) (registration : TournamentRegistration) (amount : Int) :
    PrizeCalculation where
  walletId := registration.walletId
  playerId := registration.playerId
  placement := entry.place
  amount := amount
  percentage := entry.percentage
  label := entry.label
  isMvp := entry.isMvp

/-- The payment of an entry, if it finds a player and its amount can be read. -/
def readPayment (registrations : List TournamentRegistration) (amount : Int) (entry : PrizeEntry) :
    Option PrizeCalculation :=
  (tournamentRecipient registrations entry).bind fun registration =>
    (entry.amountOf amount).map (entry.paidTo registration)

theorem tournamentPayment_eq (registrations : List TournamentRegistration) (amount : Int)
    (entry : PrizeEntry) : tournamentPayment (rankedRegistrations registrations) amount entry =
      match tournamentRecipient registrations entry with
      | none => .ok none
      | some registration =>
        (tournamentAmount amount entry).map fun v => some (entry.paidTo registration v) := by
  unfold tournamentPayment tournamentRecipient PrizeEntry.paidTo
  cases entry.isMvp with
  | true => rfl
  | false =>
      simp only [Bool.false_eq_true, if_false]
      cases (rankedRegistrations registrations).find? fun r =>
          r.finalPlacement = some entry.place with
      | none => rfl
      | some registration =>
          cases tournamentAmount amount entry with
          | ok v => rfl
          | error e => rfl

section Payments

variable {registrations : List TournamentRegistration} {amount : Int} {entry : PrizeEntry}

theorem tournamentPayment_readable
    (h : entry.isAwarded registrations = true → (entry.amountOf amount).isSome = true) :
    tournamentPayment (rankedRegistrations registrations) amount entry =
      .ok (readPayment registrations amount entry) := by
  rw [tournamentPayment_eq]
  unfold readPayment
  cases hrecipient : tournamentRecipient registrations entry with
  | none => rfl
  | some registration =>
      have hawarded := isAwarded_iff.mpr ⟨registration, hrecipient⟩
      rcases Option.isSome_iff_exists.mp (h hawarded) with ⟨v, hv⟩
      simp only [tournamentAmount_of_readable hv, hv]
      rfl

theorem tournamentPayment_unreadable (hawarded : entry.isAwarded registrations = true)
    (h : entry.amountOf amount = none) :
    ∃ e, tournamentPayment (rankedRegistrations registrations) amount entry = .error e := by
  rcases isAwarded_iff.mp hawarded with ⟨registration, hrecipient⟩
  rcases tournamentAmount_of_unreadable h with ⟨e, he⟩
  refine ⟨e, ?_⟩
  rw [tournamentPayment_eq, hrecipient]
  simp only [he]
  rfl

/-- The payments add up to the amounts of the entries that are awarded. -/
theorem sum_readPayments (registrations : List TournamentRegistration) (amount : Int)
    (entries : List PrizeEntry) :
    ((entries.filterMap (readPayment registrations amount)).map PrizeCalculation.amount).sum =
      ((entries.filter fun entry => entry.isAwarded registrations).filterMap
        (PrizeEntry.amountOf amount)).sum := by
  induction entries with
  | nil => rfl
  | cons entry entries ih =>
      -- An entry that nobody gets, or that cannot be read, counts on neither side.
      have hone : (readPayment registrations amount entry).map PrizeCalculation.amount =
          if entry.isAwarded registrations then entry.amountOf amount else none := by
        rw [← tournamentRecipient_isSome]
        unfold readPayment
        cases tournamentRecipient registrations entry with
        | none => rfl
        | some registration =>
            rw [Option.bind_some, Option.map_map, Option.isSome_some, if_pos rfl]
            exact Option.map_id'
      by_cases hawarded : entry.isAwarded registrations = true
      · rw [if_pos hawarded] at hone
        rw [List.filter_cons_of_pos hawarded]
        cases hpayment : readPayment registrations amount entry with
        | none =>
            rw [hpayment] at hone
            rw [List.filterMap_cons_none hpayment, List.filterMap_cons_none hone.symm, ih]
        | some d =>
            rw [hpayment] at hone
            rw [List.filterMap_cons_some hpayment, List.filterMap_cons_some hone.symm,
              List.map_cons, List.sum_cons, List.sum_cons, ih]
      · rw [if_neg hawarded, Option.map_eq_none_iff] at hone
        rw [List.filterMap_cons_none hone, List.filter_cons_of_neg hawarded, ih]

end Payments

/-! ### The payout -/

/-- The entries of a tournament that find a player. -/
def Tournament.awardedEntries (x : Tournament) (registrations : List TournamentRegistration) :
    List PrizeEntry :=
  x.prizeStructure.filter fun entry => entry.isAwarded registrations

section Payout

variable {s : Db} {x : Tournament} {escrow : EscrowAccount}
  {registrations : List TournamentRegistration}

theorem calculateTournament_ok {amount : Int}
    (h : ∀ entry ∈ x.awardedEntries registrations, (entry.amountOf amount).isSome = true) :
    calculateTournamentDistributionsByStrategy x registrations amount =
      .ok (x.prizeStructure.filterMap (readPayment registrations amount)) :=
  collectPayments_ok fun entry hentry => tournamentPayment_readable fun hawarded =>
    h entry (List.mem_filter.mpr ⟨hentry, hawarded⟩)

/-- The payout is refused unless the escrow can be released and the amounts can
    be read and paid. -/
theorem tournamentRefused_iff (hfind : s.escrows.findOne x.source = some escrow)
    (hpercent : escrow.platformFeePercent = x.platformFeePercent) :
    PayoutRefused (tournamentPayout x registrations) s ↔ ¬(escrow.canRelease = true ∧
      Affordable (distributableAmount escrow) (x.awardedEntries registrations)) := by
  -- The one escrow there is charges the percentage that the payout charges.
  have hrefused : PayoutRefused (tournamentPayout x registrations) s ↔
      ∀ dists, calculateTournamentDistributionsByStrategy x registrations
        (distributableAmount escrow) = .ok dists → escrow.canRelease = false ∨
          distributableAmount escrow < (paymentsOf x.source dists).total := by
    unfold distributableAmount
    rw [hpercent]
    constructor
    · rintro (hnone | ⟨found, hfound, hwhy⟩) dists hdists
      · cases hnone.symm.trans hfind
      · obtain rfl := Option.some.inj (hfound.symm.trans hfind)
        have hcalc : (tournamentPayout x registrations).calculate (found.currentBalance -
            platformFeeOf found.currentBalance
              (tournamentPayout x registrations).platformFeePercent) =
              .ok dists := hdists
        rw [hcalc, hpercent] at hwhy
        exact hwhy
    · intro hwhy
      refine .inr ⟨escrow, hfind, ?_⟩
      rw [hpercent]
      split
      · trivial
      · next dists hdists => exact hwhy dists hdists
  rw [hrefused]
  by_cases hread : ∀ entry ∈ x.awardedEntries registrations,
      (entry.amountOf (distributableAmount escrow)).isSome = true
  · have htotal : (paymentsOf x.source (x.prizeStructure.filterMap
        (readPayment registrations (distributableAmount escrow)))).total =
          ((x.awardedEntries registrations).filterMap
            (PrizeEntry.amountOf (distributableAmount escrow))).sum := by
      rw [paymentsOf_total, sum_readPayments]
      rfl
    rw [calculateTournament_ok hread]
    simp only [Except.ok.injEq, forall_eq', htotal]
    constructor
    · rintro (hno | hlt) ⟨hcan, hafford⟩
      · cases hno.symm.trans hcan
      · exact absurd hafford.total_le (by omega)
    · intro hnot
      by_cases hcan : escrow.canRelease = true
      · exact .inr (not_le.mp fun hle => hnot ⟨hcan, hread, hle⟩)
      · rw [Bool.not_eq_true] at hcan
        exact .inl hcan
  · -- The first amount that cannot be read throws.
    refine ⟨fun _ hboth => hread hboth.2.readable, fun _ => ?_⟩
    push Not at hread
    rcases hread with ⟨entry, hentry, hunread⟩
    rcases List.mem_filter.mp hentry with ⟨hmem, hawarded⟩
    rcases tournamentPayment_unreadable hawarded (Option.not_isSome_iff_eq_none.mp hunread) with
      ⟨e, he⟩
    rcases collectPayments_error hmem he with ⟨e', he'⟩
    intro dists hdists
    cases he'.symm.trans hdists

/-- A payout returns unless it is refused. -/
theorem distribute_ok_iff (payout : Payout) (s : Db) :
    (∃ record t, (distribute payout).eval s = (.ok record, t)) ↔ ¬PayoutRefused payout s := by
  -- With a calm store the credits cannot stop a payout that was ready.
  have hends := (ensures_false_iff ..).mp (distribute_ensures (C := False)
    (J := fun _ _ => ∃ escrow fee dists, PayoutReady payout s escrow fee dists) payout s
    (fun escrow fee dists hready => ⟨escrow, fee, dists, hready⟩)
    (fun dist rest t hready => ensures_mono (ensures_trivial _ t) fun _ _ _ => hready)
    fun _ _ _ hready => hready)
  rcases heval : (distribute payout).eval s with ⟨r, t⟩
  rw [heval] at hends
  cases r with
  | ok record =>
      rcases hends with ⟨escrow, fee, dists, hready⟩
      exact ⟨fun _ => hready.not_refused, fun _ => ⟨record, t, rfl⟩⟩
  | error e =>
      refine ⟨fun h => ?_, fun hnot => ?_⟩
      · rcases h with ⟨record, u, hok⟩
        exact nomatch hok
      · rcases hends with ⟨prizes, -, hfalse | hrefused⟩ | ⟨hfalse, -⟩ | ⟨hfalse, -⟩
        · exact hfalse.elim
        · exact absurd hrefused hnot
        · exact hfalse.elim
        · exact hfalse.elim

/-- The payout of a tournament returns if its escrow can be released and the
    amounts can be read and paid. -/
theorem tournamentReturns_iff (registrations : List TournamentRegistration)
    (hfind : s.escrows.findOne x.source = some escrow)
    (hpercent : escrow.platformFeePercent = x.platformFeePercent) :
    (∃ record t, (distributeTournamentPrizes x registrations).eval s = (.ok record, t)) ↔
      escrow.canRelease = true ∧
        Affordable (distributableAmount escrow) (x.awardedEntries registrations) := by
  unfold distributeTournamentPrizes
  rw [distribute_ok_iff, tournamentRefused_iff hfind hpercent, not_not]

end Payout

/-! ### The record -/

/-- Changing the first entry of a player keeps the payments, if the change
    does. -/
theorem changeEntry_payments {playerId : String} {change : DistributionEntry → DistributionEntry}
    (h : ∀ entry, (change entry).toPrizeCalculation = entry.toPrizeCalculation)
    (entries : List DistributionEntry) :
    (changeEntry playerId change entries).map DistributionEntry.toPrizeCalculation =
      entries.map DistributionEntry.toPrizeCalculation := by
  induction entries with
  | nil => rfl
  | cons entry entries ih =>
      unfold changeEntry
      split
      · rw [List.map_cons, List.map_cons, h]
      · rw [List.map_cons, List.map_cons, ih]

/-- The amount and the payments of a record, which crediting does not change. -/
def PrizeDistribution.terms (record : PrizeDistribution) : Int × List PrizeCalculation :=
  (record.distributableAmount, record.distributions.map DistributionEntry.toPrizeCalculation)

theorem record_terms (payout : Payout) (pool fee : Int) (dists : List PrizeCalculation) :
    (payout.record pool fee dists).terms = (pool - fee, dists) := by
  unfold PrizeDistribution.terms Payout.record
  rw [List.map_map]
  exact congrArg (Prod.mk (pool - fee)) (List.map_id' dists)

theorem completed_terms (record : PrizeDistribution) (playerId : String) :
    (record.entryCompleted playerId).terms = record.terms := by
  unfold PrizeDistribution.terms PrizeDistribution.entryCompleted
  simp only
  rw [changeEntry_payments]
  exact fun _ => rfl

theorem failed_terms (record : PrizeDistribution) (playerId : String) (error : ServiceError) :
    (record.entryFailed playerId error).terms = record.terms := by
  unfold PrizeDistribution.terms PrizeDistribution.entryFailed
  simp only
  rw [changeEntry_payments]
  exact fun _ => rfl

theorem creditAll_terms (source : SourceId) (mark : PrizeCalculation → Service Unit)
    (dists : List PrizeCalculation) (record : PrizeDistribution) (total : Int) (s : Db) :
    (creditAll source mark dists record total).Ensures False s fun r _ =>
      ∀ outcome, r = .ok outcome → outcome.1.terms = record.terms := by
  induction dists generalizing record total s with
  | nil =>
      intro outcome heq
      rw [← Except.ok.inj heq]
  | cons dist rest ih =>
      -- Whatever becomes of the credit, only the status of an entry changes.
      refine ensures_bind (ensures_rescue (ensures_bind ?_))
      refine ensures_mono (ensures_trivial _ s) fun r t _ => ?_
      cases r with
      | ok _ =>
          have hrest := ih (record.entryCompleted dist.playerId) (total + dist.amount) t
          rw [completed_terms] at hrest
          exact hrest
      | error e =>
          have hrest := ih (record.entryFailed dist.playerId e) total t
          rw [failed_terms] at hrest
          exact hrest

/-- The record of a payout names the amount that was distributed, which is the
    balance less the fee, and the payments that were calculated from it. -/
theorem distribute_record {payout : Payout} {s t : Db} {record : PrizeDistribution}
    (h : (distribute payout).eval s = (.ok record, t)) :
    ∃ escrow, s.escrows.findOne payout.source = some escrow ∧
      record.distributableAmount = escrow.currentBalance -
        platformFeeOf escrow.currentBalance payout.platformFeePercent ∧
      payout.calculate record.distributableAmount =
        .ok (record.distributions.map DistributionEntry.toPrizeCalculation) := by
  have hends : (distribute payout).Ensures False s fun r _ => ∀ record, r = .ok record →
      ∃ escrow, s.escrows.findOne payout.source = some escrow ∧
        record.distributableAmount = escrow.currentBalance -
          platformFeeOf escrow.currentBalance payout.platformFeePercent ∧
        payout.calculate record.distributableAmount =
          .ok (record.distributions.map DistributionEntry.toPrizeCalculation) := by
    unfold distribute
    refine ensures_bind (ensures_mono (getEscrowBySource_ensures payout.source s) fun r t h => ?_)
    rcases h with ⟨rfl, hr⟩
    cases r with
    | error e => exact fun _ heq => nomatch heq
    | ok escrow =>
    -- The escrow is read twice, and both times it is the same row.
    have hkey : escrow.escrowId = payout.source := Table.key_of_findOne hr
    refine ensures_bind (ensures_mono (getEscrowById_ensures escrow.escrowId t) fun r u h => ?_)
    rcases h with ⟨rfl, hr'⟩
    cases r with
    | error e => exact fun _ heq => nomatch heq
    | ok escrowBalance =>
    obtain rfl : escrowBalance = escrow :=
      Option.some.inj (hr'.symm.trans ((congrArg _ hkey).trans hr))
    refine ensures_bind (ensures_compute ?_)
    generalize hcalc : payout.calculate (escrowBalance.currentBalance -
      platformFeeOf escrowBalance.currentBalance payout.platformFeePercent) = calculated
    cases calculated with
    | error e => exact fun _ heq => nomatch heq
    | ok dists =>
    refine ensures_bind (ensures_perform ?_ fun hfalse => hfalse.elim)
    refine ensures_bind (ensures_onError (ensures_mono (ensures_trivial _ _) fun r v _ => ?_))
    cases r with
    | error e =>
        -- The record is marked as failed and the error is thrown again.
        refine ensures_mono (ensures_trivial _ v) fun r' w _ => ?_
        cases r' with
        | ok _ => exact fun _ heq => nomatch heq
        | error e' => exact fun _ heq => nomatch heq
    | ok txs =>
    refine ensures_bind (ensures_mono (creditAll_terms ..) fun r w hw => ?_)
    cases r with
    | error e => exact fun _ heq => nomatch heq
    | ok outcome =>
    have hterms := (hw outcome rfl).trans (record_terms ..)
    refine ensures_bind (ensures_onError (ensures_perform ?_ fun hfalse => hfalse.elim))
    intro record heq
    refine ⟨escrowBalance, hr, ?_, ?_⟩
    · rw [← Except.ok.inj heq]
      exact congrArg Prod.fst hterms
    · rw [← Except.ok.inj heq]
      refine (congrArg payout.calculate (congrArg Prod.fst hterms)).trans (hcalc.trans ?_)
      exact (congrArg (fun terms => Except.ok terms.2) hterms).symm
  have hok := (ensures_false_iff ..).mp hends
  rw [h] at hok
  exact hok record rfl

/-- The record of a tournament pays every entry that finds a player, and pays
    what can be read from it. -/
theorem record_pays {s t : Db} {x : Tournament} {escrow : EscrowAccount}
    {registrations : List TournamentRegistration} {record : PrizeDistribution}
    (hfind : s.escrows.findOne x.source = some escrow)
    (hpercent : escrow.platformFeePercent = x.platformFeePercent)
    (heval : (distributeTournamentPrizes x registrations).eval s = (.ok record, t)) :
    record.distributableAmount = distributableAmount escrow ∧
      ∀ entry ∈ x.prizeStructure, ∀ r, tournamentRecipient registrations entry = some r →
        ∃ v, entry.amountOf (distributableAmount escrow) = some v ∧
          ∃ d ∈ record.distributions, d.toPrizeCalculation = entry.paidTo r v := by
  have hafford := ((tournamentReturns_iff registrations hfind hpercent).mp ⟨record, t, heval⟩).2
  rcases distribute_record heval with ⟨found, hfound, hamount, hcalculated⟩
  obtain rfl := Option.some.inj (hfound.symm.trans hfind)
  have hdistributable : record.distributableAmount = distributableAmount found := by
    unfold distributableAmount
    rw [hamount, hpercent]
    rfl
  rw [hdistributable] at hcalculated
  have hsame := Except.ok.inj (hcalculated.symm.trans (calculateTournament_ok hafford.readable))
  refine ⟨hdistributable, fun entry hentry r hr => ?_⟩
  have hawarded := isAwarded_iff.mpr ⟨r, hr⟩
  rcases Option.isSome_iff_exists.mp
    (hafford.readable entry (List.mem_filter.mpr ⟨hentry, hawarded⟩)) with ⟨v, hv⟩
  -- The entry has a recipient and an amount that can be read, so it has a payment.
  have hpayment : readPayment registrations (distributableAmount found) entry =
      some (entry.paidTo r v) := by
    unfold readPayment
    rw [hr, Option.bind_some, hv]
    rfl
  have hmem := List.mem_filterMap.mpr ⟨entry, hentry, hpayment⟩
  rw [← hsame] at hmem
  rcases List.mem_map.mp hmem with ⟨d, hd, hpaid⟩
  exact ⟨v, hv, d, hd, hpaid⟩

end Esports

end SvmCourse
