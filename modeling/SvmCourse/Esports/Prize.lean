import Mathlib.Data.List.Sort
import SvmCourse.Core.BigInt
import SvmCourse.Esports.Escrow
import SvmCourse.Esports.Wallet

/-!
# Prize Distribution

Who is paid what, and the payment itself. The two payouts of the source, of a
match and of a tournament, differ in how recipients are found and in which row
remembers the prize; `distribute` is their common body, and each is that body
at its own calculation and its own row.

A payout reads the escrow balance, computes the payments, writes the record of
the distribution, releases the escrow and then credits one wallet after the
other. A credit that fails is noted in the record and does not stop the
others. Every other exception after the record was written marks the record
`FAILED` and goes on.

Percentages are numbers in the requests but must be integers when a payment is
computed, so a fractional percentage throws at that point. So does a fixed
amount, which is a text, if it is not the text of an integer.

## Main definitions

* `prizeStrategyConfig`: The default prize structures.
* `calculateMatchDistributionsByStrategy`,
  `calculateTournamentDistributionsByStrategy`: The payments.
* `rankParticipantsByResult`: Participants in the order of their result.
* `creditAll`: Crediting the payments one after the other.
* `distribute`, `distributeMatchPrizes`, `distributeTournamentPrizes`: The
  payout.

## Theorems

* `matchPayments_recipient`, `tournamentPayments_recipient`: Only those who
  entered are paid.
* `creditAll_ensures`: Crediting never throws, and keeps what each credit
  keeps.
* `distribute_ensures`: How a payout can end.
-/

namespace SvmCourse

namespace Esports

open Core Core.Prog

/-- A split that comes with the service. -/
structure StrategyConfig where
  riskLevel : PrizeRiskLevel
  structure_ : List PrizeEntry

/-- `PRIZE_STRATEGY_CONFIG`. -/
def prizeStrategyConfig : PrizeDistributionStrategy → StrategyConfig
  | .WINNER_TAKES_ALL => ⟨.HIGH, [{ place := 1, percentage := 100, label := some "1st Place" }]⟩
  | .TOP_3_SPLIT => ⟨.MEDIUM,
      [{ place := 1, percentage := 60, label := some "1st Place" },
       { place := 2, percentage := 30, label := some "2nd Place" },
       { place := 3, percentage := 10, label := some "3rd Place" }]⟩
  | .PERFORMANCE_MVP => ⟨.LOW,
      [{ place := 1, percentage := 70, label := some "1st Place" },
       { place := 2, percentage := 20, label := some "2nd Place" },
       { place := 0, percentage := 10, label := some "MVP Bonus", isMvp := true }]⟩
  | .CUSTOM => ⟨.MEDIUM, []⟩

/-- The share of a percentage, which `BigInt` refuses unless it is an integer. -/
def percentageShare (distributableAmount : Int) (percentage : ℚ) : Except ServiceError Int :=
  match bigIntOfNumber percentage with
  | some percent => .ok ((distributableAmount * percent).tdiv 100)
  | none => .error (.RangeError
      "The number cannot be converted to a BigInt because it is not an integer")

/-- The payments of the entries in order, where an entry may pay nobody and
    the first entry that throws ends the calculation. -/
def collectPayments (pay : PrizeEntry → Except ServiceError (Option PrizeCalculation)) :
    List PrizeEntry → Except ServiceError (List PrizeCalculation)
  | [] => .ok []
  | entry :: entries => do
    let payment ← pay entry
    let payments ← collectPayments pay entries
    pure (payment.toList ++ payments)

/-! ### Match payments -/

/-- The score of a player, and 0 when there is none. -/
def scoreOf (scores : Scores) (playerId : String) : ℚ :=
  match scores.findOne playerId with
  | some entry => entry.2
  | none => 0

/-- Sorting by descending score keeps the order of equal scores. -/
def rankParticipantsByResult (m : Match) (participants : List MatchParticipant) :
    List MatchParticipant :=
  match m.result with
  | none => []
  | some result =>
    if result.winnerIds.isEmpty then [] else
      match result.scores with
      | some scores => participants.insertionSort fun a b =>
          -- By score, and participants with the same score in the order of the list.
          scoreOf scores b.playerId ≤ scoreOf scores a.playerId
      | none =>
        -- Without scores the winners come first, in the order of the list.
        participants.filter (fun p => result.winnerIds.contains p.playerId) ++
          participants.filter fun p => !result.winnerIds.contains p.playerId

/-- The participant whose position in the ranking, from one, is the place. -/
def participantAt (ranked : List MatchParticipant) (place : ℚ) : Option MatchParticipant :=
  ((ranked.zipIdx 1).find? fun p => (p.2 : ℚ) = place).map Prod.fst

/-- Who gets a prize: the MVP for an entry that says so, else the participant ranked
    at that place. -/
def matchRecipient (result : MatchResult) (participants ranked : List MatchParticipant)
    (entry : PrizeEntry) : Option MatchParticipant :=
  if entry.isMvp then
    if truthy result.mvpPlayerId then
      participants.find? fun p => some p.playerId = result.mvpPlayerId
    else none
  else participantAt ranked entry.place

/-- The payment for an entry, if somebody gets it. -/
def matchPayment (result : MatchResult) (participants ranked : List MatchParticipant)
    (distributableAmount : Int) (entry : PrizeEntry) :
    Except ServiceError (Option PrizeCalculation) :=
  match matchRecipient result participants ranked entry with
  | none => .ok none
  | some recipient => do
    let amount ← percentageShare distributableAmount entry.percentage
    pure (some
      { walletId := recipient.walletId
        playerId := recipient.playerId
        -- The bonus of an MVP is recorded as place 0.
        placement := if entry.isMvp then 0 else entry.place
        amount := amount
        percentage := entry.percentage
        label := entry.label
        isMvp := entry.isMvp })

/-- The payments of a match, by its own structure or by the one that comes with its
    strategy. -/
def calculateMatchDistributionsByStrategy (m : Match) (participants : List MatchParticipant)
    (distributableAmount : Int) : Except ServiceError (List PrizeCalculation) :=
  let prizeStructure :=
    -- An empty structure means the default of the strategy.
    if m.prizeStructure.isEmpty then (prizeStrategyConfig m.prizeStrategy).structure_
    else m.prizeStructure
  match m.result with
  | none => .ok []
  | some result =>
    if result.winnerIds.isEmpty then .ok []
    else collectPayments (matchPayment result participants
      (rankParticipantsByResult m participants) distributableAmount) prizeStructure

/-! ### Tournament payments -/

/-- The registrations that have a final placement, by ascending placement. -/
def rankedRegistrations (registrations : List TournamentRegistration) :
    List TournamentRegistration :=
  (registrations.filter fun r => r.finalPlacement.isSome).insertionSort fun a b =>
    a.finalPlacement.getD 0 ≤ b.finalPlacement.getD 0

/-- `BigInt(text)`, which throws at a text that is no integer. -/
def bigIntOfText (text : String) : Except ServiceError Int :=
  match BigInt.bigInt text with
  | some amount => .ok amount
  | none => .error (.SyntaxError s!"Cannot convert {text} to a BigInt")

/-- The fixed amount of an entry, if it has one that is not empty, and else its
    share. -/
def tournamentAmount (distributableAmount : Int) (entry : PrizeEntry) : Except ServiceError Int :=
  match orMissing entry.fixedAmount with
  | some fixedAmount => bigIntOfText fixedAmount
  | none => percentageShare distributableAmount entry.percentage

/-- The payment for an entry, if a player has that place. -/
def tournamentPayment (ranked : List TournamentRegistration) (distributableAmount : Int)
    (entry : PrizeEntry) : Except ServiceError (Option PrizeCalculation) :=
  -- MVP entries are skipped in tournaments.
  if entry.isMvp then .ok none else
    match ranked.find? fun r => r.finalPlacement = some entry.place with
    | none => .ok none
    | some registration => do
      let amount ← tournamentAmount distributableAmount entry
      pure (some
        { walletId := registration.walletId
          playerId := registration.playerId
          placement := entry.place
          amount := amount
          percentage := entry.percentage
          label := entry.label
          isMvp := entry.isMvp })

/-- The payments of a tournament, by the places of its players. -/
def calculateTournamentDistributionsByStrategy (t : Tournament)
    (registrations : List TournamentRegistration) (distributableAmount : Int) :
    Except ServiceError (List PrizeCalculation) :=
  collectPayments (tournamentPayment (rankedRegistrations registrations) distributableAmount)
    t.prizeStructure

/-! ### Crediting -/

/-- Change the first entry of the player. -/
def changeEntry (playerId : String) (change : DistributionEntry → DistributionEntry) :
    List DistributionEntry → List DistributionEntry
  | [] => []
  | entry :: entries =>
    if entry.playerId = playerId then change entry :: entries
    else entry :: changeEntry playerId change entries

/-- The distribution with the entry of the player completed. -/
def PrizeDistribution.entryCompleted (prizeDistribution : PrizeDistribution)
    (playerId : String) : PrizeDistribution :=
  { prizeDistribution with
    distributions := changeEntry playerId (fun entry => { entry with status := .completed })
      prizeDistribution.distributions }

/-- The distribution with the entry of the player failed, and why. -/
def PrizeDistribution.entryFailed (prizeDistribution : PrizeDistribution) (playerId : String)
    (error : ServiceError) : PrizeDistribution :=
  { prizeDistribution with
    distributions := changeEntry playerId
      (fun entry => { entry with status := .failed, failureReason := some error.message })
      prizeDistribution.distributions }

/-- Credit one payment and remember it in the recipient's own row. -/
def creditOne (source : SourceId) (mark : PrizeCalculation → Service Unit)
    (dist : PrizeCalculation) : Service Unit := do
  let _ ← creditPrize dist.playerId dist.amount source
  mark dist

/-- Credit the payments one after the other, noting each outcome in the record
    and adding up what was credited. -/
def creditAll (source : SourceId) (mark : PrizeCalculation → Service Unit) :
    List PrizeCalculation → PrizeDistribution → Int → Service (PrizeDistribution × Int)
  | [], record, totalDistributed => pure (record, totalDistributed)
  | dist :: rest, record, totalDistributed => do
    let credited : Service (PrizeDistribution × Int) := do
      creditOne source mark dist
      pure (record.entryCompleted dist.playerId, totalDistributed + dist.amount)
    -- One credit that fails does not stop the others.
    let next ← credited.rescue fun error =>
      pure (record.entryFailed dist.playerId error, totalDistributed)
    creditAll source mark rest next.1 next.2

/-! ### The payout -/

/-- What a payout is about: the source, the terms of its prizes, the
    calculation of the payments and the row that remembers a prize. -/
structure Payout where
  source : SourceId
  platformFeePercent : ℚ
  prizeStrategy : PrizeDistributionStrategy
  riskLevel : PrizeRiskLevel
  calculate : Int → Except ServiceError (List PrizeCalculation)
  mark : PrizeCalculation → Service Unit

/-- The row of a distribution that is about to be paid. -/
def Payout.record (payout : Payout) (totalPrizePool platformFee : Int)
    (distributions : List PrizeCalculation) : PrizeDistribution where
  sourceId := payout.source
  totalPrizePool := totalPrizePool
  platformFee := platformFee
  distributableAmount := totalPrizePool - platformFee
  -- Counted up while the credits are made.
  distributedAmount := 0
  status := .PROCESSING
  strategy := payout.prizeStrategy
  riskLevel := payout.riskLevel
  distributions := distributions.map fun d => { d with status := .pending }

/-- The payments that the escrow is asked for. -/
def paymentsOf (source : SourceId) (distributions : List PrizeCalculation) :
    ReleaseEscrowRequest where
  escrowId := source
  distributions := distributions.map fun d => ⟨d.walletId, d.amount, some d.placement⟩

/-- The handler of a payout that failed after its record was written. -/
def failDistribution (id : Nat) (record : PrizeDistribution) (error : ServiceError) :
    Service Unit :=
  prizeRepository.save id { record with status := .FAILED, lastError := some error.message }

/-- Distribute prizes: work out the payments, release the escrow, and credit each
    winner. -/
def distribute (payout : Payout) : Service PrizeDistribution := do
  let escrow ← getEscrowBySource payout.source
  let escrowBalance ← getEscrowBalance escrow.escrowId
  let totalPrizePool := escrowBalance.currentBalance
  let platformFee := platformFeeOf totalPrizePool payout.platformFeePercent
  let distributions ← compute (payout.calculate (totalPrizePool - platformFee))
  let record := payout.record totalPrizePool platformFee distributions
  let id ← prizeRepository.insert record
  -- A release that fails is noted in the record, and the call throws.
  let _ ← (releaseEscrow (paymentsOf payout.source distributions)).onError
    (failDistribution id record)
  let outcome ← creditAll payout.source payout.mark distributions record 0
  let settled : PrizeDistribution :=
    { outcome.1 with
      distributedAmount := outcome.2
      status := if outcome.1.isFullyDistributed then .COMPLETED else .PARTIAL }
  (prizeRepository.save id settled).onError (failDistribution id settled)
  pure settled

/-- Write the prize of a participant. -/
def markParticipant (matchId : String) (dist : PrizeCalculation) : Service Unit :=
  participantRepository.update (fun p => p.key = (matchId, dist.playerId))
    (fun p => { p with prizeWon := dist.amount }) fun _ => rfl

/-- Write the prize and the place of a registration. -/
def markRegistration (tournamentId : String) (dist : PrizeCalculation) : Service Unit :=
  registrationRepository.update (fun r => r.key = (tournamentId, dist.playerId))
    (fun r => { r with prizeWon := dist.amount, finalPlacement := some dist.placement })
    fun _ => rfl

/-- What is paid for a match. -/
def matchPayout (m : Match) (participants : List MatchParticipant) : Payout where
  source := m.source
  platformFeePercent := m.platformFeePercent
  prizeStrategy := m.prizeStrategy
  riskLevel := m.riskLevel
  calculate := calculateMatchDistributionsByStrategy m participants
  mark := markParticipant m.matchId

/-- Distribute the prizes of a match. -/
def distributeMatchPrizes (m : Match) (participants : List MatchParticipant) :
    Service PrizeDistribution :=
  distribute (matchPayout m participants)

/-- What is paid for a tournament. -/
def tournamentPayout (t : Tournament) (registrations : List TournamentRegistration) : Payout where
  source := t.source
  platformFeePercent := t.platformFeePercent
  prizeStrategy := t.prizeStrategy
  riskLevel := t.riskLevel
  calculate := calculateTournamentDistributionsByStrategy t registrations
  mark := markRegistration t.tournamentId

/-- Distribute the prizes of a tournament. -/
def distributeTournamentPrizes (t : Tournament) (registrations : List TournamentRegistration) :
    Service PrizeDistribution :=
  distribute (tournamentPayout t registrations)

/-! ### Who is paid -/

/-- What holds of every payment of every entry holds of all payments. -/
theorem collectPayments_forall {P : PrizeCalculation → Prop}
    {pay : PrizeEntry → Except ServiceError (Option PrizeCalculation)}
    {entries : List PrizeEntry} {dists : List PrizeCalculation}
    (hpay : ∀ entry ∈ entries, ∀ d, pay entry = .ok (some d) → P d)
    (h : collectPayments pay entries = .ok dists) : ∀ d ∈ dists, P d := by
  -- On the entries: none of them may fail, and each adds one payment at most.
  induction entries generalizing dists with
  | nil =>
      rw [← Except.ok.inj h]
      exact fun d hd => absurd hd List.not_mem_nil
  | cons entry entries ih =>
      unfold collectPayments at h
      generalize hp : pay entry = paid at h
      cases paid with
      | error e => exact nomatch h
      | ok payment =>
          generalize hc : collectPayments pay entries = collected at h
          cases collected with
          | error e => exact nomatch h
          | ok rest =>
              rw [← Except.ok.inj h]
              intro d hd
              rcases List.mem_append.mp hd with hfirst | hrest
              · rw [Option.mem_toList] at hfirst
                exact hpay entry (List.mem_cons_self ..) d (hp.trans (congrArg _ hfirst))
              · exact ih (fun e he => hpay e (List.mem_cons_of_mem _ he)) hc d hrest

theorem mem_of_ranked {m : Match} {participants : List MatchParticipant} {p : MatchParticipant}
    (h : p ∈ rankParticipantsByResult m participants) : p ∈ participants := by
  unfold rankParticipantsByResult at h
  split at h
  · exact absurd h List.not_mem_nil
  · split at h
    · exact absurd h List.not_mem_nil
    · split at h
      · rwa [List.mem_insertionSort] at h
      · rcases List.mem_append.mp h with h | h <;> exact (List.mem_filter.mp h).1

theorem matchRecipient_mem {result : MatchResult} {participants ranked : List MatchParticipant}
    {entry : PrizeEntry} {p : MatchParticipant} (hranked : ∀ q ∈ ranked, q ∈ participants)
    (h : matchRecipient result participants ranked entry = some p) : p ∈ participants := by
  unfold matchRecipient at h
  split at h
  · split at h
    · exact List.mem_of_find?_eq_some h
    · exact nomatch h
  · rcases Option.map_eq_some_iff.mp h with ⟨⟨q, i⟩, hfind, rfl⟩
    have hmem := List.mem_of_find?_eq_some hfind
    exact hranked q (List.fst_mem_of_mem_zipIdx hmem)

/-- Only participants of the match are paid. -/
theorem matchPayments_recipient {m : Match} {participants : List MatchParticipant} {amount : Int}
    {dists : List PrizeCalculation}
    (h : calculateMatchDistributionsByStrategy m participants amount = .ok dists) :
    ∀ d ∈ dists, ∃ p ∈ participants, p.playerId = d.playerId := by
  have hnone : ∀ d ∈ ([] : List PrizeCalculation), ∃ p ∈ participants, p.playerId = d.playerId :=
    fun d hd => absurd hd List.not_mem_nil
  unfold calculateMatchDistributionsByStrategy at h
  simp only at h
  split at h
  · rw [← Except.ok.inj h]
    exact hnone
  · split at h
    · rw [← Except.ok.inj h]
      exact hnone
    · refine collectPayments_forall (fun entry _ d hd => ?_) h
      unfold matchPayment at hd
      split at hd
      · exact nomatch hd
      · -- The recipient is taken from the ranked participants.
        next recipient hrecipient =>
          generalize percentageShare amount entry.percentage = share at hd
          cases share with
          | error e => exact nomatch hd
          | ok value =>
              rw [← Option.some.inj (Except.ok.inj hd)]
              exact ⟨recipient, matchRecipient_mem (fun q => mem_of_ranked) hrecipient, rfl⟩

/-- Only registered players of the tournament are paid. -/
theorem tournamentPayments_recipient {t : Tournament} {registrations : List TournamentRegistration}
    {amount : Int} {dists : List PrizeCalculation}
    (h : calculateTournamentDistributionsByStrategy t registrations amount = .ok dists) :
    ∀ d ∈ dists, ∃ r ∈ registrations, r.playerId = d.playerId := by
  refine collectPayments_forall (fun entry _ d hd => ?_) h
  unfold tournamentPayment at hd
  split at hd
  · exact nomatch hd
  · split at hd
    · exact nomatch hd
    · -- The recipient is one of the ranked registrations.
      next registration hregistration =>
        have hmem := List.mem_of_find?_eq_some hregistration
        unfold rankedRegistrations at hmem
        rw [List.mem_insertionSort, List.mem_filter] at hmem
        generalize tournamentAmount amount entry = share at hd
        cases share with
        | error e => exact nomatch hd
        | ok value =>
            rw [← Option.some.inj (Except.ok.inj hd)]
            exact ⟨registration, hmem.1, rfl⟩

theorem paymentsOf_total (source : SourceId) (dists : List PrizeCalculation) :
    (paymentsOf source dists).total = (dists.map PrizeCalculation.amount).sum := by
  simp only [ReleaseEscrowRequest.total, paymentsOf, List.map_map]
  rfl

/-! ### How a payout can end -/

section Specifications

variable {C : Prop}

/-- Crediting never throws. A property of the payments still to be made and
    of the store, kept by every single credit whether it succeeds or not,
    holds at the end for no payments. -/
theorem creditAll_ensures {source : SourceId} {mark : PrizeCalculation → Service Unit}
    {J : List PrizeCalculation → Db → Prop}
    (hstep : ∀ dist rest s, J (dist :: rest) s →
      (creditOne source mark dist).Ensures C s fun _ t => J rest t)
    (dists : List PrizeCalculation) (record : PrizeDistribution) (total : Int) (s : Db)
    (hs : J dists s) :
    (creditAll source mark dists record total).Ensures C s fun r t =>
      (∃ outcome, r = .ok outcome) ∧ J [] t := by
  induction dists generalizing record total s with
  | nil => exact ⟨⟨_, rfl⟩, hs⟩
  | cons dist rest ih =>
      refine ensures_bind (ensures_rescue (ensures_bind ?_))
      refine ensures_mono (hstep dist rest s hs) fun r t ht => ?_
      cases r with
      | ok _ => exact ih _ _ t ht
      | error e => exact ih _ _ t ht

/-- Why a payout stops before its escrow is touched. -/
def PayoutRefused (payout : Payout) (s : Db) : Prop :=
  s.escrows.findOne payout.source = none ∨
    ∃ escrow, s.escrows.findOne payout.source = some escrow ∧
      match payout.calculate
          (escrow.currentBalance - platformFeeOf escrow.currentBalance payout.platformFeePercent)
        with
      -- A percentage that is no whole number cannot be read.
      | .error _ => True
      | .ok dists => escrow.canRelease = false ∨
          escrow.currentBalance - platformFeeOf escrow.currentBalance escrow.platformFeePercent <
            (paymentsOf payout.source dists).total

/-- The payments of a payout, once everything before the release went well. -/
structure PayoutReady (payout : Payout) (s : Db) (escrow : EscrowAccount) (fee : Int)
    (dists : List PrizeCalculation) : Prop where
  find : s.escrows.findOne payout.source = some escrow
  fee_eq : fee = platformFeeOf escrow.currentBalance escrow.platformFeePercent
  canRelease : escrow.canRelease = true
  calculated : payout.calculate
    (escrow.currentBalance - platformFeeOf escrow.currentBalance payout.platformFeePercent)
      = .ok dists
  total_le : (paymentsOf payout.source dists).total ≤ escrow.currentBalance - fee

/-- Storing the prize records, as a change of the store. -/
def Db.withPrizes (db : Db) (prizes : List PrizeDistribution) : Db := { db with prizes := prizes }

theorem settlementInterrupted_withPrizes {s t : Db} {prizes : List PrizeDistribution}
    {escrow settled : EscrowAccount} {back : EscrowStatus} {txs : List EscrowTransaction}
    (h : SettlementInterrupted (s.withPrizes prizes) t escrow back txs settled) :
    ∃ u, SettlementInterrupted s u escrow back txs settled ∧ t = u.withPrizes prizes := by
  rcases h with rfl | ⟨left, written, hleft, hwritten, rfl⟩
  · exact ⟨s, Or.inl rfl, rfl⟩
  · exact ⟨_, Or.inr ⟨left, written, hleft, hwritten, rfl⟩, rfl⟩

/-- A payout ends in one of three ways: before the escrow is touched; in the
    middle of the release, when an access was refused; or after every payment
    had its turn. `J` is what the payments keep. -/
theorem distribute_ensures {J : List PrizeCalculation → Db → Prop} (payout : Payout) (s : Db)
    (hstart : ∀ escrow fee dists, PayoutReady payout s escrow fee dists →
      J dists ((s.withEscrowTxs (releaseTxs (paymentsOf payout.source dists) fee)).withEscrow
        (escrow.afterRelease (paymentsOf payout.source dists).total fee)))
    (hstep : ∀ dist rest s, J (dist :: rest) s →
      (creditOne payout.source payout.mark dist).Ensures C s fun _ t => J rest t)
    (hprizes : ∀ rest s prizes, J rest s → J rest (s.withPrizes prizes)) :
    (distribute payout).Ensures C s fun r t => match r with
      | .ok _ => J [] t
      | .error _ =>
          (∃ prizes, t = s.withPrizes prizes ∧ (C ∨ PayoutRefused payout s)) ∨
          (C ∧ ∃ prizes escrow fee dists u, PayoutReady payout s escrow fee dists ∧
            SettlementInterrupted s u escrow .LOCKED
              (releaseTxs (paymentsOf payout.source dists) fee)
              (escrow.afterRelease (paymentsOf payout.source dists).total fee) ∧
            t = u.withPrizes prizes) ∨
          (C ∧ J [] t) := by
  unfold distribute
  refine ensures_bind (ensures_mono (getEscrowBySource_ensures payout.source s) fun r t h => ?_)
  rcases h with ⟨rfl, hr⟩
  cases r with
  | error e =>
      rcases hr with hc | hnone
      · exact Or.inl ⟨t.prizes, rfl, Or.inl hc⟩
      · exact Or.inl ⟨t.prizes, rfl, Or.inr (Or.inl hnone)⟩
  | ok escrow =>
  have hkey : escrow.escrowId = payout.source := Table.key_of_findOne hr
  refine ensures_bind (ensures_mono (getEscrowById_ensures escrow.escrowId t) fun r u h => ?_)
  rcases h with ⟨rfl, hr'⟩
  cases r with
  | error e =>
      rcases hr' with hc | hnone
      · exact Or.inl ⟨u.prizes, rfl, Or.inl hc⟩
      · exact Or.inl ⟨u.prizes, rfl, Or.inr (Or.inl (hkey ▸ hnone))⟩
  | ok escrowBalance =>
  -- Both reads return the same row.
  obtain rfl : escrowBalance = escrow :=
    Option.some.inj (hr'.symm.trans ((congrArg _ hkey).trans hr))
  refine ensures_bind (ensures_compute ?_)
  generalize hcalc : payout.calculate (escrowBalance.currentBalance -
    platformFeeOf escrowBalance.currentBalance payout.platformFeePercent) = calculated
  cases calculated with
  | error e =>
      refine Or.inl ⟨u.prizes, rfl, Or.inr (Or.inr ⟨escrowBalance, hr, ?_⟩)⟩
      rw [hcalc]
      exact trivial
  | ok dists =>
  refine ensures_bind (ensures_perform ?_ fun hc => Or.inl ⟨u.prizes, rfl, Or.inl hc⟩)
  -- From here on the store is the old one with the record added.
  refine ensures_bind (ensures_onError (ensures_mono (releaseEscrow_ensures _ _) fun r w hw => ?_))
  cases r with
  | error e =>
      rcases hw with ⟨rfl, hreason⟩ | ⟨hc, found, fee, hfind, hfee, hcan, htotal, hint⟩
      · have hrefused : C ∨ PayoutRefused payout u := by
          rcases hreason with hc | hnone | ⟨found, hfind, hwhy⟩
          · exact Or.inl hc
          · exact Or.inr (Or.inl hnone)
          · obtain rfl : found = escrowBalance := Option.some.inj (hfind.symm.trans hr)
            refine Or.inr (Or.inr ⟨found, hr, ?_⟩)
            rw [hcalc]
            exact hwhy
        exact ensures_perform (Or.inl ⟨_, rfl, hrefused⟩) fun _ => Or.inl ⟨_, rfl, hrefused⟩
      · obtain rfl : found = escrowBalance := Option.some.inj (hfind.symm.trans hr)
        rcases settlementInterrupted_withPrizes hint with ⟨v, hv, rfl⟩
        have hready : PayoutReady payout u found fee dists := ⟨hr, hfee, hcan, hcalc, htotal⟩
        exact ensures_perform (Or.inr (Or.inl ⟨hc, _, found, fee, dists, v, hready, hv, rfl⟩))
          fun _ => Or.inr (Or.inl ⟨hc, _, found, fee, dists, v, hready, hv, rfl⟩)
  | ok txs =>
      rcases hw with ⟨found, fee, hfind, hfee, hcan, htotal, rfl⟩
      obtain rfl : found = escrowBalance := Option.some.inj (hfind.symm.trans hr)
      have hJ := hprizes dists _ (u.prizes ++ [payout.record found.currentBalance
        (platformFeeOf found.currentBalance payout.platformFeePercent) dists])
        (hstart found fee dists ⟨hr, hfee, hcan, hcalc, htotal⟩)
      refine ensures_bind (ensures_mono (creditAll_ensures hstep dists _ 0 _ hJ) fun r w hw => ?_)
      rcases hw with ⟨⟨outcome, rfl⟩, hJw⟩
      refine ensures_bind (ensures_onError (ensures_perform ?_ fun hc => ?_))
      · exact hprizes [] w _ hJw
      · exact ensures_perform (Or.inr (Or.inr ⟨hc, hprizes [] w _ hJw⟩)) fun _ =>
          Or.inr (Or.inr ⟨hc, hJw⟩)

end Specifications

end Esports

end SvmCourse
