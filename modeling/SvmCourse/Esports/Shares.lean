import SvmCourse.Esports.Tournament

/-!
# Shares

What the entries of a prize structure come to when every percentage is a whole
number. The payment of an entry is its share of the distributable amount,
rounded down, and a calculation of payments is then a filter: the entries that
find a recipient, in order. The shares of percentages that add up to at most
one hundred fit into the amount, and if they add up to exactly one hundred,
what the rounding leaves over is less than one unit per entry.

## Main definitions

* `PrizeEntry.IsWhole`: The percentage is a whole number and not negative.
* `entryShare`: The share of an entry.
* `Match.payoutStructure`: The prize structure a match is paid by.

## Theorems

* `collectPayments_ok`: A calculation in which no entry throws.
* `collectPayments_players`: Who is paid.
* `calculateMatch_eq`: The payments of a match.
* `sum_shares_le`, `sum_shares_dust`: The shares against the amount.
* `tournamentPayments_ok`: The payments of a tournament.
-/

namespace SvmCourse

namespace Esports

open Core Core.Prog

/-- The percentage is a whole number and not negative. -/
def PrizeEntry.IsWhole (entry : PrizeEntry) : Prop :=
  0 ≤ entry.percentage ∧ entry.percentage.den = 1

instance (entry : PrizeEntry) : Decidable entry.IsWhole :=
  inferInstanceAs (Decidable (0 ≤ entry.percentage ∧ entry.percentage.den = 1))

/-- The part of an entry, rounded towards zero. -/
def entryShare (distributableAmount : Int) (entry : PrizeEntry) : Int :=
  (distributableAmount * entry.percentage.num).tdiv 100

theorem percentageShare_whole {entry : PrizeEntry} (h : entry.percentage.den = 1) (amount : Int) :
    percentageShare amount entry.percentage = .ok (entryShare amount entry) := by
  unfold percentageShare bigIntOfNumber
  rw [if_pos h]
  rfl

/-- A whole percentage is its numerator. -/
theorem percentage_num {entry : PrizeEntry} (h : entry.percentage.den = 1) :
    entry.percentage = (entry.percentage.num : ℚ) :=
  (Rat.coe_int_num_of_den_eq_one h).symm

/-- A calculation in which no entry throws lists the payments there are. -/
theorem collectPayments_ok {pay : PrizeEntry → Except ServiceError (Option PrizeCalculation)}
    {payment : PrizeEntry → Option PrizeCalculation} {entries : List PrizeEntry}
    (h : ∀ entry ∈ entries, pay entry = .ok (payment entry)) :
    collectPayments pay entries = .ok (entries.filterMap payment) := by
  induction entries with
  | nil => rfl
  | cons entry entries ih =>
      have hrest := ih fun e he => h e (List.mem_cons_of_mem _ he)
      have hone := h entry List.mem_cons_self
      rw [collectPayments, hone, hrest]
      -- An entry that nobody gets is skipped.
      cases hp : payment entry with
      | none =>
          rw [List.filterMap_cons_none hp]
          rfl
      | some d =>
          rw [List.filterMap_cons_some hp]
          rfl

/-- A calculation that succeeds pays the players the entries find, in order. -/
theorem collectPayments_players
    {pay : PrizeEntry → Except ServiceError (Option PrizeCalculation)}
    {recipient : PrizeEntry → Option String} {entries : List PrizeEntry}
    {dists : List PrizeCalculation}
    (hpay : ∀ entry payment, pay entry = .ok payment →
      payment.map PrizeCalculation.playerId = recipient entry)
    (h : collectPayments pay entries = .ok dists) :
    dists.map PrizeCalculation.playerId = entries.filterMap recipient := by
  -- On the entries: each pays its recipient or nobody.
  induction entries generalizing dists with
  | nil =>
      rw [← Except.ok.inj h]
      rfl
  | cons entry entries ih =>
      unfold collectPayments at h
      cases hone : pay entry with
      | error e =>
          rw [hone] at h
          cases h
      | ok payment =>
          cases hrest : collectPayments pay entries with
          | error e =>
              rw [hone, hrest] at h
              cases h
          | ok rest =>
              rw [hone, hrest] at h
              have hplayer := hpay entry payment hone
              rw [← Except.ok.inj h, List.map_append, ih hrest]
              cases payment with
              | none => rw [List.filterMap_cons_none hplayer.symm, Option.toList_none]; rfl
              | some d => rw [List.filterMap_cons_some hplayer.symm, Option.toList_some]; rfl

/-- One entry that throws is enough. -/
theorem collectPayments_error
    {pay : PrizeEntry → Except ServiceError (Option PrizeCalculation)} {entries : List PrizeEntry}
    {entry : PrizeEntry} {e : ServiceError} (hmem : entry ∈ entries) (h : pay entry = .error e) :
    ∃ e', collectPayments pay entries = .error e' := by
  induction entries with
  | nil => exact absurd hmem List.not_mem_nil
  | cons first entries ih =>
      unfold collectPayments
      cases hfirst : pay first with
      | error e' => exact ⟨e', rfl⟩
      | ok payment =>
          -- The entry that throws comes later.
          rcases List.mem_cons.mp hmem with hsame | hlater
          · rw [hsame, hfirst] at h
            cases h
          · rcases ih hlater with ⟨e', he'⟩
            rw [he']
            exact ⟨e', rfl⟩

/-- The prize structure a match is paid by: its own, unless that is empty. -/
def Match.payoutStructure (m : Match) : List PrizeEntry :=
  if m.prizeStructure.isEmpty then (prizeStrategyConfig m.prizeStrategy).structure_
  else m.prizeStructure

/-- A match with winners is paid entry by entry. -/
theorem calculateMatch_eq {m : Match} {result : MatchResult} (hresult : m.result = some result)
    (hwinners : result.winnerIds ≠ []) (participants : List MatchParticipant) (amount : Int) :
    calculateMatchDistributionsByStrategy m participants amount =
      collectPayments (matchPayment result participants (rankParticipantsByResult m participants)
        amount) m.payoutStructure := by
  have hsome : result.winnerIds.isEmpty = false := List.isEmpty_eq_false_iff.mpr hwinners
  unfold calculateMatchDistributionsByStrategy
  rw [hresult]
  simp only [hsome, Bool.false_eq_true, if_false]
  rfl

/-- A match without winners pays nobody. -/
theorem calculateMatch_nil {m : Match} (participants : List MatchParticipant) (amount : Int)
    (h : ∀ result, m.result = some result → result.winnerIds = []) :
    calculateMatchDistributionsByStrategy m participants amount = .ok [] := by
  unfold calculateMatchDistributionsByStrategy
  cases hresult : m.result with
  | none => rfl
  | some result =>
      simp only [h result hresult, List.isEmpty_nil, if_true]

/-! ### Shares against the amount -/

section Sums

variable {amount : Int}

theorem entryShare_eq_ediv (hamount : 0 ≤ amount) {entry : PrizeEntry} (h : entry.IsWhole) :
    entryShare amount entry = amount * entry.percentage.num / 100 :=
  Int.tdiv_eq_ediv_of_nonneg (Int.mul_nonneg hamount (Rat.num_nonneg.mpr h.1))

theorem entryShare_nonneg (hamount : 0 ≤ amount) {entry : PrizeEntry} (h : entry.IsWhole) :
    0 ≤ entryShare amount entry :=
  Int.tdiv_nonneg (Int.mul_nonneg hamount (Rat.num_nonneg.mpr h.1)) (by omega)

theorem entryShare_mono (hamount : 0 ≤ amount) {entry better : PrizeEntry} (h : entry.IsWhole)
    (hbetter : better.IsWhole) (hle : entry.percentage ≤ better.percentage) :
    entryShare amount entry ≤ entryShare amount better := by
  rw [entryShare_eq_ediv hamount h, entryShare_eq_ediv hamount hbetter]
  have hnum : entry.percentage.num ≤ better.percentage.num := by
    rw [percentage_num h.2, percentage_num hbetter.2] at hle
    exact_mod_cast hle
  exact Int.ediv_le_ediv (by omega) (Int.mul_le_mul_of_nonneg_left hnum hamount)

/-- The percentages of whole entries add up to a whole number. -/
theorem totalPercentage_num {entries : List PrizeEntry} (h : ∀ entry ∈ entries, entry.IsWhole) :
    totalPercentage entries =
      ((entries.map fun entry => entry.percentage.num).sum : Int) := by
  unfold totalPercentage
  induction entries with
  | nil => rfl
  | cons entry entries ih =>
      rw [List.map_cons, List.sum_cons, List.map_cons, List.sum_cons, Int.cast_add,
        ih fun e he => h e (List.mem_cons_of_mem _ he),
        ← percentage_num (h entry List.mem_cons_self).2]

/-- Rounding down costs less than one unit per entry. -/
theorem sum_shares_bounds (hamount : 0 ≤ amount) {entries : List PrizeEntry}
    (h : ∀ entry ∈ entries, entry.IsWhole) :
    100 * (entries.map (entryShare amount)).sum ≤
        amount * (entries.map fun entry => entry.percentage.num).sum ∧
      amount * (entries.map fun entry => entry.percentage.num).sum ≤
        100 * (entries.map (entryShare amount)).sum + 99 * entries.length := by
  induction entries with
  | nil => simp
  | cons entry entries ih =>
      have hrest := ih fun e he => h e (List.mem_cons_of_mem _ he)
      have hone := entryShare_eq_ediv hamount (h entry List.mem_cons_self)
      simp only [List.map_cons, List.sum_cons, List.length_cons, hone, Int.mul_add]
      generalize amount * entry.percentage.num = part
      push_cast
      omega

theorem sum_shares_le (hamount : 0 ≤ amount) {entries : List PrizeEntry}
    (h : ∀ entry ∈ entries, entry.IsWhole) (htotal : totalPercentage entries ≤ 100) :
    (entries.map (entryShare amount)).sum ≤ amount := by
  have hbounds := (sum_shares_bounds hamount h).1
  rw [totalPercentage_num h] at htotal
  have hsum : (entries.map fun entry => entry.percentage.num).sum ≤ 100 := by
    exact_mod_cast htotal
  have hmul := Int.mul_le_mul_of_nonneg_left hsum hamount
  omega

theorem sum_shares_dust (hamount : 0 ≤ amount) {entries : List PrizeEntry}
    (h : ∀ entry ∈ entries, entry.IsWhole) (htotal : totalPercentage entries = 100) :
    amount < (entries.map (entryShare amount)).sum + entries.length := by
  have hbounds := (sum_shares_bounds hamount h).2
  rw [totalPercentage_num h] at htotal
  have hsum : (entries.map fun entry => entry.percentage.num).sum = 100 := by
    exact_mod_cast htotal
  have hpos : 0 < entries.length := by
    cases entries with
    | nil => simp at hsum
    | cons entry entries => simp
  rw [hsum] at hbounds
  omega

/-- Shares of more than one hundred percent do not fit into an amount that is
    large enough for the rounding not to matter. -/
theorem sum_shares_gt (hamount : 10000 ≤ amount) {entries : List PrizeEntry}
    (h : ∀ entry ∈ entries, entry.IsWhole) (htotal : 100 < totalPercentage entries) :
    amount < (entries.map (entryShare amount)).sum := by
  -- An entry loses nothing if its percentage is zero, and otherwise less than one unit.
  have hbound : (amount - 99) * (entries.map fun entry => entry.percentage.num).sum ≤
      100 * (entries.map (entryShare amount)).sum := by
    clear htotal
    induction entries with
    | nil => simp
    | cons entry entries ih =>
        have hrest := ih fun e he => h e (List.mem_cons_of_mem _ he)
        have hwhole := h entry List.mem_cons_self
        have hnum : 0 ≤ entry.percentage.num := Rat.num_nonneg.mpr hwhole.1
        have hone : (amount - 99) * entry.percentage.num ≤ 100 * entryShare amount entry := by
          rw [entryShare_eq_ediv (by omega) hwhole, Int.sub_mul]
          by_cases hzero : entry.percentage.num = 0
          · simp [hzero]
          · omega
        simp only [List.map_cons, List.sum_cons, Int.mul_add]
        omega
  rw [totalPercentage_num h] at htotal
  have hsum : 101 ≤ (entries.map fun entry => entry.percentage.num).sum := by
    exact_mod_cast htotal
  have hmul := Int.mul_le_mul_of_nonneg_left hsum (show 0 ≤ amount - 99 by omega)
  omega

/-- What is paid are the shares of the entries that pay somebody. -/
theorem sum_payments_eq {entries : List PrizeEntry} {payment : PrizeEntry → Option PrizeCalculation}
    (hpay : ∀ entry ∈ entries, ∀ d, payment entry = some d → d.amount = entryShare amount entry) :
    ((entries.filterMap payment).map PrizeCalculation.amount).sum =
      ((entries.filter fun entry => (payment entry).isSome).map (entryShare amount)).sum := by
  induction entries with
  | nil => rfl
  | cons entry entries ih =>
      have hrest := ih fun e he => hpay e (List.mem_cons_of_mem _ he)
      cases hp : payment entry with
      | none =>
          rw [List.filterMap_cons_none hp, List.filter_cons_of_neg (by simp [hp]), hrest]
      | some d =>
          have hd := hpay entry List.mem_cons_self d hp
          rw [List.filterMap_cons_some hp, List.filter_cons_of_pos (by simp [hp]), List.map_cons,
            List.sum_cons, List.map_cons, List.sum_cons, hrest, hd]

/-- The payments that are made are worth no more than all the shares. -/
theorem sum_payments_le (hamount : 0 ≤ amount) {entries : List PrizeEntry}
    (h : ∀ entry ∈ entries, entry.IsWhole) {payment : PrizeEntry → Option PrizeCalculation}
    (hpay : ∀ entry ∈ entries, ∀ d, payment entry = some d → d.amount = entryShare amount entry) :
    ((entries.filterMap payment).map PrizeCalculation.amount).sum ≤
      (entries.map (entryShare amount)).sum := by
  -- On the entries: one that pays nobody still has a share.
  induction entries with
  | nil => exact le_refl _
  | cons entry entries ih =>
      have hrest := ih (fun e he => h e (List.mem_cons_of_mem _ he))
        fun e he => hpay e (List.mem_cons_of_mem _ he)
      have hnonneg := entryShare_nonneg hamount (h entry List.mem_cons_self)
      cases hp : payment entry with
      | none =>
          rw [List.filterMap_cons_none hp, List.map_cons, List.sum_cons]
          omega
      | some d =>
          have hd := hpay entry List.mem_cons_self d hp
          rw [List.filterMap_cons_some hp, List.map_cons, List.sum_cons, List.map_cons,
            List.sum_cons, hd]
          omega

end Sums

/-! ### Tournament payments -/

/-- The ranking has everybody with a placement in it. -/
theorem ranked_find_isSome (registrations : List TournamentRegistration) (place : ℚ) :
    ((rankedRegistrations registrations).find? fun r => r.finalPlacement = some place).isSome =
      registrations.any fun r => r.finalPlacement = some place := by
  rw [Bool.eq_iff_iff, List.find?_isSome, List.any_eq_true]
  refine exists_congr fun r => and_congr_left fun hplace => ?_
  unfold rankedRegistrations
  rw [List.mem_insertionSort, List.mem_filter]
  refine ⟨fun h => h.1, fun h => ⟨h, ?_⟩⟩
  rw [of_decide_eq_true hplace]
  rfl

/-- The payment of a tournament entry with a whole percentage. -/
def wholeTournamentPayment (ranked : List TournamentRegistration) (amount : Int)
    (entry : PrizeEntry) : Option PrizeCalculation :=
  -- Nobody is the MVP of a tournament.
  if entry.isMvp then none else
    (ranked.find? fun r => r.finalPlacement = some entry.place).map fun registration =>
      { walletId := registration.walletId
        playerId := registration.playerId
        placement := entry.place
        amount := entryShare amount entry
        percentage := entry.percentage
        label := entry.label
        isMvp := entry.isMvp }

theorem tournamentPayment_whole {ranked : List TournamentRegistration} {amount : Int}
    {entry : PrizeEntry} (h : entry.percentage.den = 1) (hfixed : entry.fixedAmount = none) :
    tournamentPayment ranked amount entry = .ok (wholeTournamentPayment ranked amount entry) := by
  unfold tournamentPayment wholeTournamentPayment
  cases entry.isMvp with
  | true => rfl
  | false =>
      have hmissing : orMissing entry.fixedAmount = none := by
        rw [hfixed]
        rfl
      simp only [Bool.false_eq_true, if_false, tournamentAmount, hmissing, percentageShare_whole h]
      cases ranked.find? fun r => r.finalPlacement = some entry.place with
      | none => rfl
      | some registration => rfl

/-- The payments of a tournament without fixed amounts. -/
theorem tournamentPayments_ok {t : Tournament} (registrations : List TournamentRegistration)
    (amount : Int)
    (h : ∀ entry ∈ t.prizeStructure, entry.IsWhole ∧ entry.fixedAmount = none) :
    calculateTournamentDistributionsByStrategy t registrations amount =
      .ok (t.prizeStructure.filterMap
        (wholeTournamentPayment (rankedRegistrations registrations) amount)) :=
  collectPayments_ok fun entry hentry =>
    tournamentPayment_whole (h entry hentry).1.2 (h entry hentry).2

theorem wholeTournamentPayment_amount {ranked : List TournamentRegistration} {amount : Int}
    {entry : PrizeEntry} {d : PrizeCalculation}
    (h : wholeTournamentPayment ranked amount entry = some d) :
    d.amount = entryShare amount entry := by
  unfold wholeTournamentPayment at h
  split at h
  · exact nomatch h
  · rcases Option.map_eq_some_iff.mp h with ⟨registration, -, rfl⟩
    rfl

end Esports

end SvmCourse
