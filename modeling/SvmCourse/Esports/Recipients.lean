import SvmCourse.Esports.Shares

/-!
# Recipients

Who the entries of a prize structure find once the result of a match is known.
A place finds the participant whose position in the ranking it is, so it finds
somebody if it is a whole number between one and the number of participants.
An MVP entry finds the MVP. Without a winner nobody is ranked and nobody is
paid, the MVP neither.

The percentages of entries that find nobody are never looked at. So it is the
awarded entries alone that decide whether a payout can be computed and what it
comes to.

## Main definitions

* `PrizeEntry.awarded`: The entry finds somebody.
* `Match.awardedEntries`: The entries that are paid.
* `wholeMatchPayment`: The payment of an entry with a whole percentage.

## Theorems

* `participantAt_eq_some_iff`: The participant at a place.
* `matchPayments_ok`, `matchPayments_error`: When the payments can be computed,
  and what they come to.
-/

namespace SvmCourse

namespace Esports

open Core Core.Prog

/-! ### Finding a place -/

/-- Looking for a number in a numbered list is looking up a position. -/
theorem find_zipIdx {α : Type} (l : List α) (n k : Nat) :
    ((l.zipIdx n).find? fun p => (p.2 : ℚ) = (k : ℚ)).map Prod.fst =
      if n ≤ k then l[k - n]? else none := by
  induction l generalizing n with
  | nil => simp
  | cons a l ih =>
      rw [List.zipIdx_cons, List.find?_cons]
      -- The first entry has the number, or the number is looked up in the rest.
      by_cases hn : n = k
      · simp [hn]
      · have hcast : ¬((n : ℚ) = (k : ℚ)) := fun h => hn (by exact_mod_cast h)
        simp only [hcast, decide_false, ih]
        by_cases hle : n ≤ k
        · have hsub : k - n = (k - (n + 1)) + 1 := by omega
          rw [if_pos (by omega), if_pos hle, hsub, List.getElem?_cons_succ]
        · rw [if_neg (by omega), if_neg hle]

theorem participantAt_eq_some_iff {ranked : List MatchParticipant} {place : ℚ}
    {p : MatchParticipant} : participantAt ranked place = some p ↔
      ∃ k : Nat, place = k ∧ 1 ≤ k ∧ ranked[k - 1]? = some p := by
  unfold participantAt
  constructor
  · intro h
    rcases Option.map_eq_some_iff.mp h with ⟨⟨q, k⟩, hfind, rfl⟩
    have hplace := List.find?_some hfind
    rw [decide_eq_true_eq] at hplace
    have hmem := List.mem_of_find?_eq_some hfind
    rw [List.mk_mem_zipIdx_iff_le_and_getElem?_sub] at hmem
    exact ⟨k, hplace.symm, hmem.1, hmem.2⟩
  · rintro ⟨k, rfl, hk, hget⟩
    rw [find_zipIdx, if_pos hk, hget]

/-- A place finds somebody if it is the number of one of the ranks. -/
theorem participantAt_isSome (ranked : List MatchParticipant) (place : ℚ) :
    (participantAt ranked place).isSome =
      decide (place.den = 1 ∧ 1 ≤ place ∧ place ≤ ranked.length) := by
  rw [Bool.eq_iff_iff, Option.isSome_iff_exists, decide_eq_true_eq]
  constructor
  · intro h
    rcases h with ⟨p, hp⟩
    rcases participantAt_eq_some_iff.mp hp with ⟨k, rfl, hk, hget⟩
    have hlt := (List.getElem?_eq_some_iff.mp hget).1
    have hle : k ≤ ranked.length := by omega
    exact ⟨Rat.den_natCast k, by exact_mod_cast hk, by exact_mod_cast hle⟩
  · intro h
    rcases h with ⟨hden, hone, hle⟩
    -- A whole place is the number of a rank, counted from one.
    have hnum : place = (place.num : ℚ) := (Rat.coe_int_num_of_den_eq_one hden).symm
    rw [hnum] at hone hle
    have hone' : (1 : Int) ≤ place.num := by exact_mod_cast hone
    have hle' : place.num ≤ (ranked.length : Int) := by exact_mod_cast hle
    obtain ⟨k, hk⟩ : ∃ k : Nat, place.num = k := ⟨place.num.toNat, by omega⟩
    have hlt : k - 1 < ranked.length := by omega
    refine ⟨ranked[k - 1], participantAt_eq_some_iff.mpr ⟨k, ?_, by omega, ?_⟩⟩
    · rw [hnum, hk]
      rfl
    · exact List.getElem?_eq_getElem hlt

/-! ### Awarded entries -/

/-- Every participant is ranked once there is a winner. -/
theorem ranked_perm {m : Match} {result : MatchResult} (hresult : m.result = some result)
    (hwinners : result.winnerIds ≠ []) (participants : List MatchParticipant) :
    (rankParticipantsByResult m participants).Perm participants := by
  have hsome : result.winnerIds.isEmpty = false := List.isEmpty_eq_false_iff.mpr hwinners
  unfold rankParticipantsByResult
  rw [hresult]
  simp only [hsome, Bool.false_eq_true, if_false]
  cases result.scores with
  | some scores => exact List.perm_insertionSort ..
  | none => exact List.filter_append_perm ..

/-- The entry finds somebody to pay, given that somebody has won. -/
def PrizeEntry.awarded (entry : PrizeEntry) (mvpPlayerId : Option String)
    (playerIds : List String) : Bool :=
  if entry.isMvp then mvpPlayerId.any fun id => id != "" && playerIds.contains id
  else entry.place.den = 1 ∧ 1 ≤ entry.place ∧ entry.place ≤ playerIds.length

/-- The entries of a match that are paid for a result. -/
def Match.awardedEntries (m : Match) (request : SubmitResultRequest) (playerIds : List String) :
    List PrizeEntry :=
  if request.winnerIds = [] then []
  else m.payoutStructure.filter fun entry => entry.awarded request.mvpPlayerId playerIds

theorem matchRecipient_isSome {result : MatchResult} {participants ranked : List MatchParticipant}
    (hlength : ranked.length = participants.length) (entry : PrizeEntry) :
    (matchRecipient result participants ranked entry).isSome =
      entry.awarded result.mvpPlayerId (participants.map MatchParticipant.playerId) := by
  unfold matchRecipient PrizeEntry.awarded
  cases entry.isMvp with
  | false =>
      simp only [Bool.false_eq_true, if_false, participantAt_isSome, hlength, List.length_map]
  | true =>
      cases result.mvpPlayerId with
      | none => rfl
      | some id =>
          rw [if_pos rfl, if_pos rfl, Option.any_some]
          -- An empty id counts as none.
          by_cases hempty : id = ""
          · simp [truthy, hempty]
          · rw [if_pos (by simp [truthy, hempty]), Bool.eq_iff_iff, List.find?_isSome]
            simp [hempty]

/-- The payment of an entry whose percentage is a whole number. -/
def wholeMatchPayment (result : MatchResult) (participants ranked : List MatchParticipant)
    (amount : Int) (entry : PrizeEntry) : Option PrizeCalculation :=
  (matchRecipient result participants ranked entry).map fun recipient =>
    { walletId := recipient.walletId
      playerId := recipient.playerId
      placement := if entry.isMvp then 0 else entry.place
      amount := entryShare amount entry
      percentage := entry.percentage
      label := entry.label
      isMvp := entry.isMvp }

theorem matchPayment_whole {result : MatchResult} {participants ranked : List MatchParticipant}
    {amount : Int} {entry : PrizeEntry}
    (h : (matchRecipient result participants ranked entry).isSome →
      entry.percentage.den = 1) :
    matchPayment result participants ranked amount entry =
      .ok (wholeMatchPayment result participants ranked amount entry) := by
  unfold matchPayment wholeMatchPayment
  cases hrecipient : matchRecipient result participants ranked entry with
  | none => rfl
  | some recipient =>
      rw [hrecipient] at h
      simp only [percentageShare_whole (h rfl)]
      rfl

/-- An entry that finds somebody but is no whole percentage throws. -/
theorem matchPayment_error {result : MatchResult} {participants ranked : List MatchParticipant}
    (amount : Int) {entry : PrizeEntry}
    (hsome : (matchRecipient result participants ranked entry).isSome)
    (hden : entry.percentage.den ≠ 1) :
    ∃ e, matchPayment result participants ranked amount entry = .error e := by
  unfold matchPayment
  rcases Option.isSome_iff_exists.mp hsome with ⟨recipient, hrecipient⟩
  rw [hrecipient]
  unfold percentageShare bigIntOfNumber
  rw [if_neg hden]
  exact ⟨_, rfl⟩

/-! ### The payments of a result -/

section Payments

variable {m : Match} {request : SubmitResultRequest} (participants : List MatchParticipant)
  (amount : Int)

/-- The ranking of the participants for a result. -/
def rankedFor (m : Match) (request : SubmitResultRequest) (participants : List MatchParticipant) :
    List MatchParticipant :=
  rankParticipantsByResult (afterResult m request) participants

/-- The result that is recorded for a request. -/
def SubmitResultRequest.result (request : SubmitResultRequest) : MatchResult where
  winnerIds := request.winnerIds
  scores := request.scores
  mvpPlayerId := request.mvpPlayerId

theorem afterResult_result (m : Match) (request : SubmitResultRequest) :
    (afterResult m request).result = some request.result := rfl

theorem length_rankedFor (m : Match) (hwinners : request.winnerIds ≠ [])
    (participants : List MatchParticipant) :
    (rankedFor m request participants).length = participants.length :=
  (ranked_perm (afterResult_result m request) hwinners participants).length_eq

/-- An entry of the structure is awarded when it finds a recipient. -/
theorem awarded_iff (m : Match) (hwinners : request.winnerIds ≠ []) (entry : PrizeEntry) :
    (matchRecipient request.result participants (rankedFor m request participants) entry).isSome =
      entry.awarded request.mvpPlayerId (participants.map MatchParticipant.playerId) :=
  matchRecipient_isSome (length_rankedFor m hwinners participants) entry

theorem mem_awardedEntries {participants : List MatchParticipant} {entry : PrizeEntry} :
    entry ∈ m.awardedEntries request (participants.map MatchParticipant.playerId) ↔
      request.winnerIds ≠ [] ∧ entry ∈ m.payoutStructure ∧
        (matchRecipient request.result participants (rankedFor m request participants)
          entry).isSome := by
  unfold Match.awardedEntries
  by_cases hwinners : request.winnerIds = []
  · simp [hwinners]
  · rw [if_neg hwinners, List.mem_filter, awarded_iff participants m hwinners]
    exact ⟨fun h => ⟨hwinners, h⟩, fun h => h.2⟩

/-- The payments of a match whose awarded percentages are whole numbers. -/
def resultPayments (m : Match) (request : SubmitResultRequest)
    (participants : List MatchParticipant) (amount : Int) : List PrizeCalculation :=
  if request.winnerIds = [] then []
  else m.payoutStructure.filterMap (wholeMatchPayment request.result participants
    (rankedFor m request participants) amount)

theorem matchPayments_ok
    (h : ∀ entry ∈ m.awardedEntries request (participants.map MatchParticipant.playerId),
      entry.percentage.den = 1) :
    calculateMatchDistributionsByStrategy (afterResult m request) participants amount =
      .ok (resultPayments m request participants amount) := by
  unfold resultPayments
  by_cases hwinners : request.winnerIds = []
  · rw [if_pos hwinners]
    refine calculateMatch_nil participants amount fun result hresult => ?_
    rw [← Option.some.inj ((afterResult_result m request).symm.trans hresult)]
    exact hwinners
  · rw [if_neg hwinners, calculateMatch_eq (afterResult_result m request) hwinners]
    refine collectPayments_ok fun entry hentry => matchPayment_whole fun hsome => ?_
    exact h entry (mem_awardedEntries.mpr ⟨hwinners, hentry, hsome⟩)

theorem matchPayments_error {entry : PrizeEntry}
    (hmem : entry ∈ m.awardedEntries request (participants.map MatchParticipant.playerId))
    (hden : entry.percentage.den ≠ 1) :
    ∃ e, calculateMatchDistributionsByStrategy (afterResult m request) participants amount =
      .error e := by
  rcases mem_awardedEntries.mp hmem with ⟨hwinners, hentry, hsome⟩
  rcases matchPayment_error amount hsome hden with ⟨e, he⟩
  rw [calculateMatch_eq (afterResult_result m request) hwinners]
  exact collectPayments_error hentry he

/-- What is paid are the shares of the awarded entries. -/
theorem resultPayments_total (source : SourceId) :
    (paymentsOf source (resultPayments m request participants amount)).total =
      ((m.awardedEntries request (participants.map MatchParticipant.playerId)).map
        (entryShare amount)).sum := by
  rw [paymentsOf_total]
  unfold resultPayments Match.awardedEntries
  -- Without winners nothing is awarded.
  by_cases hwinners : request.winnerIds = []
  · simp [hwinners]
  · rw [if_neg hwinners, if_neg hwinners, sum_payments_eq]
    · congr 2
      refine List.filter_congr fun entry _ => ?_
      unfold wholeMatchPayment
      rw [Option.isSome_map]
      exact awarded_iff participants m hwinners entry
    · intro entry _ d hd
      rcases Option.map_eq_some_iff.mp hd with ⟨recipient, -, rfl⟩
      rfl

end Payments

end Esports

end SvmCourse
