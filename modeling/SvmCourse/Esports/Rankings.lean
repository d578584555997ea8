import Mathlib.Algebra.Order.BigOperators.Group.List
import Mathlib.Data.List.Induction
import SvmCourse.Esports.Placing
import SvmCourse.Esports.Settling

/-!
# Two Rankings

The participants of a match are ranked twice. `submitResult` writes placements:
the order of `winnerIds`, or of the score entries when there are scores, and
then one placement for everybody who has not won. The payout ranks again, the
winners as they joined and then the others as they joined, or everybody by
score. Nothing ties the two together, and places are paid by the second.

Where they agree on the places that are paid, prizes follow the placements: the
first prize goes to a winner, the prize of each place to whoever is placed
there, and who is placed better gets no less.

## Main definitions

* `SubmitResultRequest.payOrder`: The participants as they are paid.
* `SubmitResultRequest.PlacesAt`: The placement a result gives a player.
* `RankingsAgree`: The two rankings agree on the places that are paid.
* `PaidByResult`: The prizes follow the placements.

## Theorems

* `lastPlacement_written`: Placements in terms of the request.
* `placement_after`: The placements in the store.
* `RankingsAgree.ordered`: Better placements get no less.
* `paidByResult_iff`: The prizes follow the placements exactly when the rankings
  agree.
-/

namespace SvmCourse

namespace Esports

open Core Core.Prog

/-! ### The order of payment -/

/-- The participants by descending score, or the winners and then the others.
    Otherwise they come as they joined. -/
def SubmitResultRequest.payOrder (request : SubmitResultRequest) (playerIds : List String) :
    List String :=
  match request.scores with
  | some scores => playerIds.insertionSort fun a b => scoreOf scores b ≤ scoreOf scores a
  | none => playerIds.filter (fun id => request.winnerIds.contains id) ++
      playerIds.filter fun id => !request.winnerIds.contains id

theorem rankedFor_playerIds {request : SubmitResultRequest} (m : Match)
    (hwinners : request.winnerIds ≠ []) (participants : List MatchParticipant) :
    (rankedFor m request participants).map MatchParticipant.playerId =
      request.payOrder (participants.map MatchParticipant.playerId) := by
  have hsome : request.winnerIds.isEmpty = false := List.isEmpty_eq_false_iff.mpr hwinners
  unfold rankedFor rankParticipantsByResult SubmitResultRequest.payOrder
  rw [afterResult_result]
  simp only [SubmitResultRequest.result, hsome, Bool.false_eq_true, if_false]
  cases request.scores with
  | some scores => exact List.map_insertionSort _ _ _ _ fun a _ b _ => Iff.rfl
  | none =>
      rw [List.map_append, List.filter_map, List.filter_map]
      rfl

theorem payOrder_perm (request : SubmitResultRequest) (playerIds : List String) :
    (request.payOrder playerIds).Perm playerIds := by
  unfold SubmitResultRequest.payOrder
  cases request.scores with
  | some scores => exact List.perm_insertionSort ..
  | none => exact List.filter_append_perm ..

/-- Different players, all but one of them from a list, are at most one more
    than the list is long. -/
theorem length_le_of_mem {l w : List String} (hnodup : l.Nodup) (i : Nat)
    (h : ∀ (k : Nat) id, l[k]? = some id → k ≠ i → id ∈ w) : l.length ≤ w.length + 1 := by
  have hsub : l.eraseIdx i ⊆ w := by
    intro id hid
    rcases List.mem_eraseIdx_iff_getElem?.mp hid with ⟨k, hne, hget⟩
    exact h k id hget hne
  have hle := List.Nodup.length_le_of_subset (hnodup.eraseIdx i) hsub
  rw [List.length_eraseIdx] at hle
  split at hle <;> omega

/-! ### The order of placement -/

/-- The placement that the result gives to a participant. Who has not won comes
    after the winners. -/
def SubmitResultRequest.PlacesAt (request : SubmitResultRequest) (id : String) (place : Nat) :
    Prop :=
  if id ∈ request.winnerIds then
    1 ≤ place ∧ (rankedPlayerIds request)[place - 1]? = some id ∧
      id ∉ (rankedPlayerIds request).drop place
  else place = request.winnerIds.length + 1

theorem lastPlacement_cons (w : String × Nat) (written : List (String × Nat)) (id : String) :
    lastPlacement (w :: written) id =
      (lastPlacement written id).or (if w.1 = id then some w.2 else none) := by
  rw [← lastPlacement_singleton]
  exact lastPlacement_append [w] written id

/-- Everybody in the list gets the same placement. -/
theorem lastPlacement_const (l : List String) (place : Nat) (id : String) :
    lastPlacement (l.map fun x => (x, place)) id = if id ∈ l then some place else none := by
  induction l with
  | nil => rfl
  | cons x l ih =>
      rw [List.map_cons, lastPlacement_cons, ih]
      by_cases hmem : id ∈ l
      · simp [hmem]
      · simp [hmem, eq_comm]

/-- The last mention in a numbered list counts. -/
theorem lastPlacement_zipIdx (l : List String) (n place : Nat) (id : String) :
    lastPlacement (l.zipIdx n) id = some place ↔
      n ≤ place ∧ l[place - n]? = some id ∧ id ∉ l.drop (place - n + 1) := by
  induction l using List.reverseRecOn with
  | nil => simp [lastPlacement]
  | append_singleton l x ih =>
      rw [List.zipIdx_append, lastPlacement_append, List.zipIdx_singleton, lastPlacement_singleton]
      by_cases hid : x = id
      · rw [if_pos hid, Option.some_or, Option.some.injEq, hid]
        constructor
        · rintro rfl
          have hsub : n + l.length - n = l.length := by omega
          rw [hsub]
          refine ⟨by omega, List.getElem?_concat_length, ?_⟩
          rw [List.drop_eq_nil_of_le (by simp)]
          exact List.not_mem_nil
        · intro h
          rcases h with ⟨hle, hget, hnot⟩
          have hlt := (List.getElem?_eq_some_iff.mp hget).1
          rw [List.length_append, List.length_singleton] at hlt
          by_contra hne
          -- The last entry would be mentioned after the place.
          refine hnot ?_
          rw [List.drop_append_of_le_length (by omega)]
          exact List.mem_append_right _ (List.mem_singleton.mpr rfl)
      · rw [if_neg hid, Option.none_or, ih]
        refine and_congr_right fun hle => ?_
        by_cases hlt : place - n < l.length
        · rw [List.getElem?_append_left hlt, List.drop_append_of_le_length (by omega),
            List.mem_append, List.mem_singleton]
          have hne : ¬id = x := fun h => hid h.symm
          simp [hne]
        · have hnone : l[place - n]? = none := List.getElem?_eq_none (by omega)
          rw [hnone, List.getElem?_append_right (by omega)]
          constructor
          · exact fun h => nomatch h.1
          · intro h
            have hmem := List.mem_of_getElem? h.1
            exact absurd (List.mem_singleton.mp hmem).symm hid

/-- The placements a result writes, for a participant. -/
theorem lastPlacement_written {request : SubmitResultRequest} {playerIds : List String}
    {id : String} (hid : id ∈ playerIds) (place : Nat) :
    lastPlacement (writtenPlacements request playerIds) id = some place ↔
      request.PlacesAt id place := by
  unfold writtenPlacements SubmitResultRequest.PlacesAt
  rw [lastPlacement_append, lastPlacement_const]
  -- Winners are placed first and the others afterwards, so nobody is placed by both.
  by_cases hwon : id ∈ request.winnerIds
  · have hnot : id ∉ playerIds.filter fun id => !request.winnerIds.contains id := by
      simp [hwon]
    rw [if_neg hnot, if_pos hwon, Option.none_or, lastPlacement_zipIdx]
    refine and_congr_right fun hpos => ?_
    have hsucc : place - 1 + 1 = place := by omega
    rw [hsucc]
  · have hmem : id ∈ playerIds.filter fun id => !request.winnerIds.contains id := by
      simp [hwon, hid]
    rw [if_pos hmem, if_neg hwon, Option.some_or, Option.some.injEq]
    exact eq_comm

instance (request : SubmitResultRequest) (id : String) (place : Nat) :
    Decidable (request.PlacesAt id place) := by
  unfold SubmitResultRequest.PlacesAt
  infer_instance

/-- A result gives a player one placement. -/
theorem SubmitResultRequest.PlacesAt.unique {request : SubmitResultRequest}
    {playerIds : List String} {id : String}
    (hid : id ∈ playerIds) {place place' : Nat} (h : request.PlacesAt id place)
    (h' : request.PlacesAt id place') : place = place' := by
  have hlast := (lastPlacement_written hid place).mpr h
  have hlast' := (lastPlacement_written hid place').mpr h'
  exact Option.some.inj (hlast.symm.trans hlast')

theorem SubmitResultRequest.PlacesAt.pos {request : SubmitResultRequest} {id : String} {place : Nat}
    (h : request.PlacesAt id place) : 1 ≤ place := by
  unfold SubmitResultRequest.PlacesAt at h
  split at h
  · exact h.1
  · omega

/-- Only the place after the winners goes to somebody who has not won. -/
theorem SubmitResultRequest.PlacesAt.won {request : SubmitResultRequest} {id : String} {place : Nat}
    (h : request.PlacesAt id place) (hplace : place ≠ request.winnerIds.length + 1) :
    id ∈ request.winnerIds ∧ (rankedPlayerIds request)[place - 1]? = some id := by
  unfold SubmitResultRequest.PlacesAt at h
  by_cases hwon : id ∈ request.winnerIds
  · rw [if_pos hwon] at h
    exact ⟨hwon, h.2.1⟩
  · rw [if_neg hwon] at h
    exact absurd h hplace

/-! ### Placements in the store -/

section Store

variable {s t : Db} {request : SubmitResultRequest} {m row : Match}

theorem mem_participantsOf {p : MatchParticipant} {matchId : String} :
    p ∈ s.participantsOf matchId ↔ p ∈ s.participants.rows ∧ p.matchId = matchId := by
  unfold Db.participantsOf Table.find
  rw [List.mem_filter, decide_eq_true_eq]

theorem finished_placement (written : List (String × Nat)) (p : MatchParticipant) :
    (finished written p).placement = (lastPlacement written p.playerId).or p.placement := by
  unfold finished
  cases lastPlacement written p.playerId with
  | none => rfl
  | some place => rfl

/-- The ids of the participants of a match are different. -/
theorem playerIds_nodup (request : SubmitResultRequest) (s : Db) :
    (request.playerIds s).Nodup := by
  have hrows : (s.participantsOf request.matchId).Nodup :=
    (List.Nodup.of_map _ s.participants.unique).filter _
  refine hrows.map_on fun p hp q hq hplayer => ?_
  rw [mem_participantsOf] at hp hq
  refine Table.eq_of_key hp.1 hq.1 ?_
  unfold MatchParticipant.key
  rw [hp.2, hq.2, hplayer]

/-- A recorded result rewrites the rows one by one. -/
theorem recorded_row (hrecorded : ResultRecorded s t request m row) {p : MatchParticipant}
    (hp : p ∈ t.participantsOf request.matchId) : ∃ q ∈ s.participantsOf request.matchId,
      q.playerId = p.playerId ∧ p.placement =
        (lastPlacement (writtenPlacements request (request.playerIds s)) q.playerId).or
          q.placement := by
  rw [mem_participantsOf] at hp
  have hmem := List.mem_map_of_mem (f := MatchParticipant.unpaid) hp.1
  rw [hrecorded.participants] at hmem
  rcases List.mem_map.mp hmem with ⟨q, hq, hsame⟩
  -- The written places get a name, as what they are does not matter here.
  obtain ⟨written, hwritten⟩ : ∃ written, written =
    writtenPlacements request (request.playerIds s) := ⟨_, rfl⟩
  have hsame' : (rowsFinished request.matchId written q).unpaid = p.unpaid := by
    rw [hwritten]
    exact hsame
  rw [← hwritten]
  have hkey : (rowsFinished request.matchId written q).key = q.key := by
    unfold rowsFinished
    split
    · exact finished_key written q
    · rfl
  -- Writing the places of a row keeps its key.
  have hkeys : q.key = p.key := by
    have hkeep := congrArg MatchParticipant.key hsame'
    exact hkey.symm.trans hkeep
  unfold MatchParticipant.key at hkeys
  rw [Prod.mk.injEq] at hkeys
  have hmatch : q.matchId = request.matchId := hkeys.1.trans hp.2
  refine ⟨q, mem_participantsOf.mpr ⟨hq, hmatch⟩, hkeys.2, ?_⟩
  have hplacement : (rowsFinished request.matchId written q).placement = p.placement := by
    have hkeep := congrArg MatchParticipant.placement hsame'
    exact hkeep
  unfold rowsFinished at hplacement
  rw [if_pos hmatch, finished_placement] at hplacement
  exact hplacement.symm

/-- The placement of a participant once the result is recorded. -/
theorem placement_after (hrecorded : ResultRecorded s t request m row)
    (hunplaced : Unplaced s request.matchId) {p : MatchParticipant}
    (hp : p ∈ t.participantsOf request.matchId) (place : Nat) :
    p.placement = some place ↔ request.PlacesAt p.playerId place := by
  rcases recorded_row hrecorded hp with ⟨q, hq, hplayer, hplacement⟩
  have hid : q.playerId ∈ request.playerIds s := List.mem_map_of_mem hq
  rw [hplacement, hunplaced q hq, Option.or_none, lastPlacement_written hid, hplayer]

/-- Everybody who took part still has a row. -/
theorem row_after (hrecorded : ResultRecorded s t request m row) {id : String}
    (hid : id ∈ request.playerIds s) : ∃ p ∈ t.participantsOf request.matchId,
      p.playerId = id ∧ t.participants.findOne (request.matchId, id) = some p := by
  rcases List.mem_map.mp hid with ⟨q, hq, rfl⟩
  rw [mem_participantsOf] at hq
  obtain ⟨written, hwritten⟩ : ∃ written, written =
    writtenPlacements request (request.playerIds s) := ⟨_, rfl⟩
  have hmem : (rowsFinished request.matchId written q).unpaid ∈
      t.participants.rows.map MatchParticipant.unpaid := by
    rw [hrecorded.participants, hwritten]
    exact List.mem_map_of_mem (f := fun p => (rowsFinished request.matchId
      (writtenPlacements request (request.playerIds s)) p).unpaid) hq.1
  rcases List.mem_map.mp hmem with ⟨p, hp, hsame⟩
  -- The row is found again by its key.
  have hkey : p.key = q.key := by
    have hfinished : (rowsFinished request.matchId written q).key = q.key := by
      unfold rowsFinished
      split
      · exact finished_key written q
      · rfl
    have hkeep := congrArg MatchParticipant.key hsame
    exact hkeep.trans hfinished
  have hids := hkey
  unfold MatchParticipant.key at hids
  rw [Prod.mk.injEq] at hids
  have hfind := Table.findOne_of_mem hp
  rw [hkey] at hfind
  unfold MatchParticipant.key at hfind
  rw [hq.2] at hfind
  exact ⟨p, mem_participantsOf.mpr ⟨hp, hids.1.trans hq.2⟩, hids.2, hfind⟩

end Store

/-! ### Prizes and placements -/

/-- Each place has at most one entry, and no place is worth less than a later
    one. -/
structure NonIncreasing (entries : List PrizeEntry) : Prop where
  nonneg : ∀ entry ∈ entries, 0 ≤ entry.percentage
  distinct : (entries.filter fun entry => !entry.isMvp).Pairwise fun a b => a.place ≠ b.place
  falling : ∀ entry ∈ entries, entry.isMvp = false → 0 < entry.percentage →
    ∀ place : Nat, 1 ≤ place → (place : ℚ) < entry.place →
      ∃ better ∈ entries, better.isMvp = false ∧ better.place = place ∧
        entry.percentage ≤ better.percentage

/-- What a player gets for places. -/
def placePrize (dists : List PrizeCalculation) (id : String) : Int :=
  ((dists.filter fun d => !d.isMvp && d.playerId = id).map PrizeCalculation.amount).sum

/-- The prizes follow the placements in the store. -/
structure PaidByResult (t : Db) (request : SubmitResultRequest) (entries : List PrizeEntry)
    (dists : List PrizeCalculation) : Prop where
  first : ∀ d ∈ dists, d.isMvp = false → d.placement = 1 → d.playerId ∈ request.winnerIds
  placed : ∀ d ∈ dists, d.isMvp = false → ∃ (p : MatchParticipant) (place : Nat),
    t.participants.findOne (request.matchId, d.playerId) = some p ∧
      p.placement = some place ∧ (place : ℚ) = d.placement
  ordered : NonIncreasing entries → ∀ p ∈ t.participantsOf request.matchId,
    ∀ q ∈ t.participantsOf request.matchId, ∀ place place', p.placement = some place →
      q.placement = some place' → place < place' →
        placePrize dists q.playerId ≤ placePrize dists p.playerId

/-- Whoever is paid for a place is placed there. -/
def RankingsAgree (m : Match) (request : SubmitResultRequest) (playerIds : List String) : Prop :=
  ∀ entry ∈ m.payoutStructure, entry.isMvp = false → ∀ (place : Nat) (id : String),
    entry.place = place → 1 ≤ place → (request.payOrder playerIds)[place - 1]? = some id →
      request.PlacesAt id place

section Payments

variable {s t : Db} {request : SubmitResultRequest} {m row : Match} {amount : Int}

/-- The entry pays the player for a place. -/
def PrizeEntry.PaysFor (entry : PrizeEntry) (order : List String) (id : String) : Prop :=
  entry.isMvp = false ∧ ∃ place : Nat, entry.place = place ∧ 1 ≤ place ∧
    order[place - 1]? = some id

/-- What is computed for a result that can be computed. -/
theorem resultPayments_of_ok {participants : List MatchParticipant} {dists : List PrizeCalculation}
    (h : calculateMatchDistributionsByStrategy (afterResult m request) participants amount =
      .ok dists) :
    dists = resultPayments m request participants amount ∧
      ∀ entry ∈ m.awardedEntries request (participants.map MatchParticipant.playerId),
        entry.percentage.den = 1 := by
  have hwhole : ∀ entry ∈ m.awardedEntries request (participants.map MatchParticipant.playerId),
      entry.percentage.den = 1 := by
    intro entry hmem
    by_contra hden
    rcases matchPayments_error participants amount hmem hden with ⟨e, he⟩
    exact nomatch h.symm.trans he
  have hok := matchPayments_ok participants amount hwhole
  exact ⟨Except.ok.inj (h.symm.trans hok), hwhole⟩

/-- The place an entry pays for, when it does. -/
theorem wholeMatchPayment_place (hwinners : request.winnerIds ≠ [])
    {participants : List MatchParticipant} {entry : PrizeEntry} {d : PrizeCalculation}
    (hmvp : entry.isMvp = false)
    (h : wholeMatchPayment request.result participants (rankedFor m request participants) amount
      entry = some d) :
    d.isMvp = false ∧ d.placement = entry.place ∧
      entry.PaysFor (request.payOrder (participants.map MatchParticipant.playerId)) d.playerId := by
  rcases Option.map_eq_some_iff.mp h with ⟨recipient, hrecipient, rfl⟩
  unfold matchRecipient at hrecipient
  rw [hmvp] at hrecipient
  rcases participantAt_eq_some_iff.mp hrecipient with ⟨place, hplace, hpos, hget⟩
  refine ⟨hmvp, ?_, hmvp, place, hplace, hpos, ?_⟩
  · simp [hmvp]
  · rw [← rankedFor_playerIds m hwinners participants, List.getElem?_map, hget]
    rfl

/-- Whoever an entry pays for a place is paid by it. -/
theorem PrizeEntry.PaysFor.payment (hwinners : request.winnerIds ≠ [])
    {participants : List MatchParticipant} {entry : PrizeEntry} {id : String}
    (h : entry.PaysFor (request.payOrder (participants.map MatchParticipant.playerId)) id)
    (m : Match) (amount : Int) :
    ∃ d, wholeMatchPayment request.result participants (rankedFor m request participants) amount
      entry = some d ∧ d.playerId = id := by
  rcases h with ⟨hmvp, place, hplace, hpos, hget⟩
  rw [← rankedFor_playerIds m hwinners participants, List.getElem?_map] at hget
  rcases Option.map_eq_some_iff.mp hget with ⟨p, hp, rfl⟩
  have hrecipient : matchRecipient request.result participants
      (rankedFor m request participants) entry = some p := by
    unfold matchRecipient
    rw [hmvp]
    exact participantAt_eq_some_iff.mpr ⟨place, hplace, hpos, hp⟩
  unfold wholeMatchPayment
  rw [hrecipient]
  exact ⟨_, rfl, rfl⟩

/-- The entries that pay the player for a place. -/
def Match.placeEntries (m : Match) (request : SubmitResultRequest)
    (participants : List MatchParticipant) (amount : Int) (id : String) : List PrizeEntry :=
  m.payoutStructure.filter fun entry => ((wholeMatchPayment request.result participants
    (rankedFor m request participants) amount entry).filter fun d =>
      !d.isMvp && d.playerId = id).isSome

theorem mem_placeEntries (hwinners : request.winnerIds ≠ []) {participants : List MatchParticipant}
    {entry : PrizeEntry} {id : String} :
    entry ∈ m.placeEntries request participants amount id ↔ entry ∈ m.payoutStructure ∧
      entry.PaysFor (request.payOrder (participants.map MatchParticipant.playerId)) id := by
  unfold Match.placeEntries
  rw [List.mem_filter]
  refine and_congr_right fun _ => ⟨fun h => ?_, fun h => ?_⟩
  · rcases Option.isSome_iff_exists.mp h with ⟨d, hd⟩
    rcases Option.filter_eq_some_iff.mp hd with ⟨hpay, hfor⟩
    simp only [Bool.and_eq_true, Bool.not_eq_true', decide_eq_true_eq] at hfor
    -- The entry of the MVP is no entry for a place.
    have hmvp : entry.isMvp = false := by
      rcases Option.map_eq_some_iff.mp hpay with ⟨recipient, -, rfl⟩
      exact hfor.1
    rw [← hfor.2]
    exact (wholeMatchPayment_place hwinners hmvp hpay).2.2
  · rcases h.payment hwinners m amount with ⟨d, hd, rfl⟩
    have hmvp := (wholeMatchPayment_place hwinners h.1 hd).1
    rw [hd, Option.filter_some]
    simp [hmvp]

/-- What a player gets for places are the shares of those entries. -/
theorem placePrize_eq (participants : List MatchParticipant) (hwinners : request.winnerIds ≠ [])
    (m : Match) (amount : Int) (id : String) :
    placePrize (resultPayments m request participants amount) id =
      ((m.placeEntries request participants amount id).map (entryShare amount)).sum := by
  unfold placePrize resultPayments Match.placeEntries
  rw [if_neg hwinners, List.filter_filterMap, sum_payments_eq]
  intro entry _ d hd
  rcases Option.map_eq_some_iff.mp (Option.filter_eq_some_iff.mp hd).1 with ⟨recipient, -, rfl⟩
  rfl

/-- If a place is paid, so are the better ones, and then whoever is placed
    better is paid for that place. -/
theorem RankingsAgree.better {playerIds : List String} (h : RankingsAgree m request playerIds)
    (hnodup : playerIds.Nodup) (hfalling : NonIncreasing m.payoutStructure) {id id' : String}
    {place place' : Nat} (hid' : id' ∈ playerIds) (hplace : request.PlacesAt id place)
    (hplace' : request.PlacesAt id' place') (hlt : place < place') {entry : PrizeEntry}
    (hmem : entry ∈ m.payoutStructure) (hpays : entry.PaysFor (request.payOrder playerIds) id')
    (hpos : 0 < entry.percentage) :
    ∃ better ∈ m.payoutStructure, better.PaysFor (request.payOrder playerIds) id ∧
      entry.percentage ≤ better.percentage := by
  rcases hpays with ⟨hmvp, last, hlast, hlastpos, hget⟩
  obtain rfl : last = place' := (h entry hmem hmvp last id' hlast hlastpos hget).unique hid' hplace'
  have hlength : last - 1 < (request.payOrder playerIds).length :=
    (List.getElem?_eq_some_iff.mp hget).1
  -- Everybody up to this place is paid for the place the result gives.
  have hplaced : ∀ (k : Nat) other, 1 ≤ k → k ≤ last →
      (request.payOrder playerIds)[k - 1]? = some other → request.PlacesAt other k := by
    intro k other hk hle hother
    by_cases hsame : k = last
    · exact h entry hmem hmvp k other (hlast.trans (by rw [hsame])) hk hother
    · have hless : (k : ℚ) < entry.place := by
        rw [hlast]
        exact_mod_cast lt_of_le_of_ne hle hsame
      rcases hfalling.falling entry hmem hmvp hpos k hk hless with ⟨better, hb, hbmvp, hbplace, -⟩
      exact h better hb hbmvp k other hbplace hk hother
  -- All of them have won, but for one at most, so there are not too many.
  have hcount : last ≤ request.winnerIds.length + 1 := by
    have hperm := payOrder_perm request playerIds
    have hbegins : ((request.payOrder playerIds).take last).Nodup :=
      (hperm.nodup_iff.mpr hnodup).sublist (List.take_sublist ..)
    have hwon : ∀ (k : Nat) other, ((request.payOrder playerIds).take last)[k]? = some other →
        k ≠ request.winnerIds.length → other ∈ request.winnerIds := by
      intro k other hother hne
      have hbound := (List.getElem?_eq_some_iff.mp hother).1
      rw [List.length_take] at hbound
      have hk : k < last := by omega
      rw [List.getElem?_take_of_lt hk] at hother
      exact ((hplaced (k + 1) other (by omega) hk hother).won (by omega)).1
    have hle := length_le_of_mem hbegins request.winnerIds.length hwon
    rw [List.length_take] at hle
    omega
  have hone := hplace.pos
  -- So the better place is one of a winner, and only one winner has it.
  have hother : (request.payOrder playerIds)[place - 1]? = some id := by
    have hin : place - 1 < (request.payOrder playerIds).length := by omega
    have hfirst := hplaced place _ hone hlt.le (List.getElem?_eq_getElem hin)
    have hranked := (hfirst.won (by omega)).2
    have hranked' := (hplace.won (by omega)).2
    rw [List.getElem?_eq_getElem hin]
    exact hranked.symm.trans hranked'
  have hless : (place : ℚ) < entry.place := by
    rw [hlast]
    exact_mod_cast hlt
  rcases hfalling.falling entry hmem hmvp hpos place hone hless with
    ⟨better, hb, hbmvp, hbplace, hle⟩
  exact ⟨better, hb, ⟨hbmvp, place, hbplace, hone, hother⟩, hle⟩

/-- No player is paid for two places. -/
theorem RankingsAgree.placeEntries {participants : List MatchParticipant}
    (h : RankingsAgree m request (participants.map MatchParticipant.playerId))
    (hwinners : request.winnerIds ≠ []) (hfalling : NonIncreasing m.payoutStructure) {id : String}
    (hid : id ∈ participants.map MatchParticipant.playerId) :
    m.placeEntries request participants amount id = [] ∨
      ∃ entry, m.placeEntries request participants amount id = [entry] := by
  -- Every entry paid to the player is for the place the player has.
  have hplaces : ∀ entry ∈ m.placeEntries request participants amount id,
      entry.isMvp = false ∧ ∃ place : Nat, entry.place = place ∧ request.PlacesAt id place := by
    intro entry hentry
    rcases (mem_placeEntries hwinners).mp hentry with ⟨hmem, hmvp, place, hplace, hpos, hget⟩
    exact ⟨hmvp, place, hplace, h entry hmem hmvp place id hplace hpos hget⟩
  -- No two entries are for one place.
  have hdistinct : (m.placeEntries request participants amount id).Pairwise fun a b =>
      a.isMvp = false → b.isMvp = false → a.place ≠ b.place := by
    have hall := List.pairwise_filter.mp hfalling.distinct
    simp only [Bool.not_eq_true'] at hall
    exact hall.filter _
  rcases hentries : m.placeEntries request participants amount id with _
    | ⟨first, _ | ⟨second, rest⟩⟩
  · exact Or.inl rfl
  · exact Or.inr ⟨first, rfl⟩
  · rw [hentries] at hplaces hdistinct
    rcases hplaces first List.mem_cons_self with ⟨hmvp, place, hplace, hat⟩
    have hsecond : second ∈ first :: second :: rest :=
      List.mem_cons_of_mem _ List.mem_cons_self
    rcases hplaces second hsecond with ⟨hmvp', place', hplace', hat'⟩
    -- So two entries would be for the same place.
    have hsame : place = place' := hat.unique hid hat'
    refine absurd ?_ ((List.pairwise_cons.mp hdistinct).1 second List.mem_cons_self hmvp hmvp')
    rw [hplace, hplace', hsame]

/-- Under non-increasing percentages the better placed one gets no less. -/
theorem RankingsAgree.ordered {participants : List MatchParticipant}
    (h : RankingsAgree m request (participants.map MatchParticipant.playerId))
    (hnodup : (participants.map MatchParticipant.playerId).Nodup)
    (hwinners : request.winnerIds ≠ []) (hamount : 0 ≤ amount)
    (hden : ∀ entry ∈ m.awardedEntries request (participants.map MatchParticipant.playerId),
      entry.percentage.den = 1)
    (hfalling : NonIncreasing m.payoutStructure) {id id' : String} {place place' : Nat}
    (hid' : id' ∈ participants.map MatchParticipant.playerId) (hplace : request.PlacesAt id place)
    (hplace' : request.PlacesAt id' place') (hlt : place < place') :
    placePrize (resultPayments m request participants amount) id' ≤
      placePrize (resultPayments m request participants amount) id := by
  -- Whoever is paid is awarded, so the shares are not negative.
  have hwhole : ∀ id, ∀ entry ∈ m.placeEntries request participants amount id, entry.IsWhole := by
    intro id entry hentry
    rcases (mem_placeEntries hwinners).mp hentry with ⟨hmem, hpays⟩
    refine ⟨hfalling.nonneg entry hmem, hden entry ?_⟩
    rcases hpays.payment hwinners m amount with ⟨d, hd, -⟩
    rcases Option.map_eq_some_iff.mp hd with ⟨recipient, hrecipient, -⟩
    refine mem_awardedEntries.mpr ⟨hwinners, hmem, ?_⟩
    rw [hrecipient]
    rfl
  have hnonneg : ∀ share ∈ (m.placeEntries request participants amount id).map (entryShare amount),
      0 ≤ share := by
    intro share hshare
    rcases List.mem_map.mp hshare with ⟨entry, hentry, rfl⟩
    exact entryShare_nonneg hamount (hwhole id entry hentry)
  rw [placePrize_eq participants hwinners, placePrize_eq participants hwinners]
  rcases h.placeEntries hwinners hfalling hid' with hnone | ⟨entry, hone⟩
  · rw [hnone]
    exact List.sum_nonneg hnonneg
  · have hentry : entry ∈ m.placeEntries request participants amount id' := by
      rw [hone]
      exact List.mem_singleton.mpr rfl
    rcases (mem_placeEntries hwinners).mp hentry with ⟨hmem, hpays⟩
    rw [hone, List.map_singleton, List.sum_singleton]
    by_cases hpos : 0 < entry.percentage
    · rcases h.better hnodup hfalling hid' hplace hplace' hlt hmem hpays hpos with
        ⟨better, hb, hbpays, hle⟩
      have hbentry : better ∈ m.placeEntries request participants amount id :=
        (mem_placeEntries hwinners).mpr ⟨hb, hbpays⟩
      calc entryShare amount entry ≤ entryShare amount better :=
            entryShare_mono hamount (hwhole id' entry hentry) (hwhole id better hbentry) hle
        _ ≤ _ := List.single_le_sum hnonneg _ (List.mem_map_of_mem hbentry)
    · have hzero : entry.percentage = 0 :=
        le_antisymm (not_lt.mp hpos) (hwhole id' entry hentry).1
      have hshare : entryShare amount entry = 0 := by
        unfold entryShare
        rw [hzero]
        simp
      rw [hshare]
      exact List.sum_nonneg hnonneg

/-- Whoever is paid for a place is paid as the order of payment says. -/
theorem mem_resultPayments (hwinners : request.winnerIds ≠ [])
    {participants : List MatchParticipant} {d : PrizeCalculation}
    (h : d ∈ resultPayments m request participants amount) (hmvp : d.isMvp = false) :
    ∃ entry ∈ m.payoutStructure, entry.place = d.placement ∧
      entry.PaysFor (request.payOrder (participants.map MatchParticipant.playerId)) d.playerId := by
  unfold resultPayments at h
  rw [if_neg hwinners] at h
  rcases List.mem_filterMap.mp h with ⟨entry, hentry, hpay⟩
  have hsame : entry.isMvp = false := by
    rcases Option.map_eq_some_iff.mp hpay with ⟨recipient, -, rfl⟩
    exact hmvp
  have hplace := wholeMatchPayment_place hwinners hsame hpay
  exact ⟨entry, hentry, hplace.2.1.symm, hplace.2.2⟩

/-- The prizes follow the placements exactly when the rankings agree, if nobody
    had a placement before. -/
theorem ResultRecorded.paid_iff (hrecorded : ResultRecorded s t request m row)
    (hunplaced : Unplaced s request.matchId) (hwinners : request.winnerIds ≠ [])
    (hamount : 0 ≤ amount) {dists : List PrizeCalculation}
    (hdists : calculateMatchDistributionsByStrategy (afterResult m request)
      (s.participantsOf request.matchId) amount = .ok dists) :
    PaidByResult t request m.payoutStructure dists ↔
      RankingsAgree m request (request.playerIds s) := by
  rcases resultPayments_of_ok hdists with ⟨rfl, hden⟩
  have hnodup := playerIds_nodup request s
  constructor
  · -- Whoever an entry pays has its place after the result, and so in the result.
    intro hpaid entry hentry hmvp place id hplace hpos hget
    have hpays : entry.PaysFor (request.payOrder (request.playerIds s)) id :=
      ⟨hmvp, place, hplace, hpos, hget⟩
    rcases hpays.payment hwinners m amount with ⟨d, hd, rfl⟩
    have hmem : d ∈ resultPayments m request (s.participantsOf request.matchId) amount := by
      unfold resultPayments
      rw [if_neg hwinners]
      exact List.mem_filterMap.mpr ⟨entry, hentry, hd⟩
    have hplaced := wholeMatchPayment_place hwinners hmvp hd
    rcases hpaid.placed d hmem hplaced.1 with ⟨p, place', hfind, hplacement, hsame⟩
    rw [hplaced.2.1, hplace] at hsame
    obtain rfl : place' = place := by exact_mod_cast hsame
    have hkey := Table.key_of_findOne hfind
    unfold MatchParticipant.key at hkey
    rw [Prod.mk.injEq] at hkey
    have hrow := mem_participantsOf.mpr ⟨Table.mem_of_findOne hfind, hkey.1⟩
    rw [← hkey.2]
    exact (placement_after hrecorded hunplaced hrow place').mp hplacement
  · intro hagree
    -- When the rankings agree, every payment goes to the player placed there.
    have hplaced : ∀ d ∈ resultPayments m request (s.participantsOf request.matchId) amount,
        d.isMvp = false → d.playerId ∈ request.playerIds s ∧
          ∃ place : Nat, d.placement = place ∧ request.PlacesAt d.playerId place := by
      intro d hd hmvp
      rcases mem_resultPayments hwinners hd hmvp with
        ⟨entry, hentry, hsame, hnot, place, hplace, hpos, hget⟩
      have hid := (payOrder_perm request (request.playerIds s)).mem_iff.mp
        (List.mem_of_getElem? hget)
      exact ⟨hid, place, hsame.symm.trans hplace, hagree entry hentry hnot place _ hplace hpos hget⟩
    -- The first prize, the places, and the order of the sums.
    refine ⟨fun d hd hmvp hfirst => ?_, fun d hd hmvp => ?_, ?_⟩
    · rcases hplaced d hd hmvp with ⟨-, place, hplace, hat⟩
      obtain rfl : place = 1 := by
        rw [hplace] at hfirst
        exact_mod_cast hfirst
      have hsome := List.length_pos_iff.mpr hwinners
      exact (hat.won (by omega)).1
    · rcases hplaced d hd hmvp with ⟨hid, place, hplace, hat⟩
      rcases row_after hrecorded hid with ⟨p, hp, hplayer, hfind⟩
      rw [← hplayer] at hat
      exact ⟨p, place, hfind, (placement_after hrecorded hunplaced hp place).mpr hat, hplace.symm⟩
    · intro hfalling p hp q hq place place' hplace hplace' hlt
      rcases recorded_row hrecorded hq with ⟨old, hold, hsame, -⟩
      have hid : q.playerId ∈ request.playerIds s := hsame ▸ List.mem_map_of_mem hold
      exact hagree.ordered hnodup hwinners hamount hden hfalling hid
        ((placement_after hrecorded hunplaced hp place).mp hplace)
        ((placement_after hrecorded hunplaced hq place').mp hplace') hlt

end Payments

/-- What is checked of a match that is being played to see how a result would
    be paid. -/
theorem payments_of_facts (s : Db) (request : SubmitResultRequest) (amount : Int)
    (entries : List PrizeEntry) (paid : List (String × ℚ × Bool))
    (hmatch : ((s.matchRows.findOne request.matchId).map fun m => (m.status,
      (checkResult m request (request.playerIds s)).toOption, m.payoutStructure)) =
        some (.IN_PROGRESS, some (), entries))
    (hpayments : ((s.matchRows.findOne request.matchId).map fun m =>
      (calculateMatchDistributionsByStrategy (afterResult m request)
        (s.participantsOf request.matchId) amount).toOption.map fun dists =>
          dists.map fun d => (d.playerId, d.placement, d.isMvp)) = some (some paid)) :
    ∃ m dists, Submittable s request m ∧ m.payoutStructure = entries ∧
      calculateMatchDistributionsByStrategy (afterResult m request)
        (s.participantsOf request.matchId) amount = .ok dists ∧
      (dists.map fun d => (d.playerId, d.placement, d.isMvp)) = paid := by
  rcases Option.map_eq_some_iff.mp hmatch with ⟨m, hfind, hfacts⟩
  simp only [Prod.mk.injEq] at hfacts
  rcases hfacts with ⟨hplaying, hchecked, hentries⟩
  rw [hfind, Option.map_some, Option.some.injEq] at hpayments
  rcases Option.map_eq_some_iff.mp hpayments with ⟨dists, hdists, hpaid⟩
  refine ⟨m, dists, ⟨hfind, hplaying, ?_⟩, hentries, ?_, hpaid⟩
  · -- The two results are compared as options, which `decide` can evaluate.
    change checkResult m request (request.playerIds s) = .ok ()
    cases hcheck : checkResult m request (request.playerIds s) with
    | ok u => rfl
    | error e =>
        rw [hcheck] at hchecked
        exact nomatch hchecked
  · cases hcalc : calculateMatchDistributionsByStrategy (afterResult m request)
        (s.participantsOf request.matchId) amount with
    | ok found =>
        rw [hcalc] at hdists
        exact congrArg Except.ok (Option.some.inj hdists)
    | error e =>
        rw [hcalc] at hdists
        exact nomatch hdists

/-- A match for sixty and forty percent. -/
def sixtyForty : Run :=
  customMatch [{ place := 1, percentage := 60 }, { place := 2, percentage := 40 }]

end Esports

end SvmCourse
