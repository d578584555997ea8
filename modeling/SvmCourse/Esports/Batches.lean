import SvmCourse.Esports.Completion
import SvmCourse.Esports.Rounds

/-!
# Reporting in Batches

A tournament of two to some power players whose results are reported in
batches of any size and in any order, each round finished before the next one
begins. The stored bracket is the sheet of the matches reported so far, by
induction on the batches, until the batch with the final completes the
tournament. Every player is then placed by the round of the last match, and
counting the players at a placement is counting the matches of a round.

## Main definitions

* `Orderly`: Batches in which each round is finished before the next begins.
* `batchCall`: The call that reports a batch.
* `Underway`, `Finished`: The store before and after the final is reported.
* `PlacedByRounds`: Who is placed where.

## Theorems

* `underway_batch`: What one batch does.
* `batches_played`: What all batches together do.
* `powerOfTwo_batches`: Brackets of a power of two players play correctly.
-/

namespace SvmCourse

namespace Esports

open Core Core.Prog

/-- Matches and the time at which they are reported. -/
abbrev Batch := List (Nat × Nat) × Int

/-- Each batch reports matches not reported before, in rounds all of whose
    earlier rounds are reported. -/
def Orderly (k : Nat) : List (Nat × Nat) → List Batch → Prop
  | _, [] => True
  | reported, batch :: rest =>
    batch.1.Nodup ∧
      (∀ m ∈ batch.1, IsSlot k m.1 m.2 ∧ m ∉ reported ∧
        ∀ r ≤ m.1, seatsFilled k reported r = true) ∧
      Orderly k (reported ++ batch.1) rest

instance Orderly.decidable (k : Nat) :
    (reported : List (Nat × Nat)) → (batches : List Batch) → Decidable (Orderly k reported batches)
  | _, [] => isTrue trivial
  | reported, batch :: rest =>
    have := Orderly.decidable k (reported ++ batch.1) rest
    inferInstanceAs (Decidable (batch.1.Nodup ∧
      (∀ m ∈ batch.1, IsSlot k m.1 m.2 ∧ m ∉ reported ∧
        ∀ r ≤ m.1, seatsFilled k reported r = true) ∧
      Orderly k (reported ++ batch.1) rest))

/-- The call that reports a batch. -/
def batchCall (K : Knockout String) (hex : BracketHex) (tournamentId : String) (batch : Batch) :
    Call :=
  .advanceRound
    { tournamentId := tournamentId
      results := batch.1.map (reportOf K hex)
      now := batch.2 }

section Playing

variable {s t : Db} {x : Tournament} {K : Knockout String} {hex : BracketHex}
  {reported : List (Nat × Nat)}

/-- The tournament as it stands with the sheet of the reports. -/
def playedTournament (x : Tournament) (K : Knockout String) (hex : BracketHex)
    (reported : List (Nat × Nat)) : Tournament :=
  { x with bracket := some (progress K hex reported reported).toBracket }

/-- Only the tournament row has changed, and it holds the sheet of the reports,
    which do not include the final. -/
structure Underway (s : Db) (x : Tournament) (K : Knockout String) (hex : BracketHex)
    (reported : List (Nat × Nat)) (t : Db) : Prop where
  row : t.tournaments.findOne x.tournamentId = some (playedTournament x K hex reported)
  rest : t = { s with tournaments := t.tournaments }
  final : (K.rounds - 1, 0) ∉ reported

/-- The tournament is completed, with everything played, and every player has
    the placement the bracket gives. -/
structure Finished (s : Db) (x : Tournament) (K : Knockout String) (hex : BracketHex)
    (reported : List (Nat × Nat)) (t : Db) : Prop where
  final : (K.rounds - 1, 0) ∈ reported
  completed : ∃ y seen, t.tournaments.findOne x.tournamentId = some y ∧ y.status = .COMPLETED ∧
    y.bracket = some (progress K hex seen reported).toBracket ∧ Played K seen reported ∧
    ∀ p, s.isRegistered x.tournamentId p → t.placementOf x.tournamentId p =
      (((finalPlacements (progress K hex seen reported).toBracket).findOne p).map Prod.snd).or
        (s.placementOf x.tournamentId p)

/-- With the final, everything is reported. -/
theorem played_of_final (hK : Named K) {batch : List (Nat × Nat)}
    (horderly : ∀ m ∈ batch, IsSlot K.rounds m.1 m.2 ∧ m ∉ reported ∧
      ∀ r ≤ m.1, seatsFilled K.rounds reported r = true)
    (hfinal : (K.rounds - 1, 0) ∈ batch) : Played K reported (reported ++ batch) := by
  rcases horderly _ hfinal with ⟨hslot, -, hfilled⟩
  refine ⟨hK, fun r hr => hfilled r (by omega), fun r j hj => ?_⟩
  have hr := hj.1
  by_cases hlast : r = K.rounds - 1
  · -- The last round has one match.
    have hzero : K.rounds - 1 - r = 0 := by omega
    have hone := hj.2
    rw [hzero, Nat.pow_zero] at hone
    obtain rfl : j = 0 := by omega
    rw [hlast]
    exact List.mem_append_right _ hfinal
  · have hnext := hfilled (r + 1) (by omega)
    exact List.mem_append_left _ (seatsFilled_succ.mp hnext j hj.2)

/-- Whether the final is decided once a batch is recorded. -/
theorem finalDecided_progress (hK : Named K) (hpos : 0 < K.rounds) (hex : BracketHex)
    (seen reported : List (Nat × Nat)) :
    finalDecided (progress K hex seen reported).toBracket =
      decide ((K.rounds - 1, 0) ∈ reported) := by
  have hrounds : (progress K hex seen reported).rounds = K.rounds := rfl
  rw [finalDecided_eq, hrounds, decide_eq_true hpos, Bool.true_and]
  have hchampion : truthy (some (K.survivor (K.rounds - 1 + 1) 0)) = true := by
    have hsub : K.rounds - 1 + 1 = K.rounds := by omega
    rw [hsub]
    exact hK.survivor (le_refl _) (Nat.two_pow_pos _)
  by_cases hm : (K.rounds - 1, 0) ∈ reported
  · simp [progress, hm, hchampion]
  · simp [progress, hm]

theorem advanced_progress (hK : Named K) (batch : List (Nat × Nat)) :
    advancedTournament (playedTournament x K hex reported)
        (progress K hex reported (reported ++ batch)).toBracket =
      playedTournament x K hex (reported ++ batch) := by
  unfold advancedTournament playedTournament
  rw [advanceWinners_eq,
    advance_progress hex hK fun m hm => List.mem_append_left batch hm]

/-- One batch either moves the tournament on or, with the final, finishes it. -/
theorem underway_batch (hpay : Payable s x) (hstatus : x.status = .IN_PROGRESS) (hK : Named K)
    (hpos : 0 < K.rounds) (h : Underway s x K hex reported t) (batch : Batch)
    (horderly : ∀ m ∈ batch.1, IsSlot K.rounds m.1 m.2 ∧ m ∉ reported ∧
      ∀ r ≤ m.1, seatsFilled K.rounds reported r = true) :
    let u := ((batchCall K hex x.tournamentId batch).program.eval t).2
    Underway s x K hex (reported ++ batch.1) u ∨ Finished s x K hex (reported ++ batch.1) u := by
  have hrecorded : recordResults (progress K hex reported reported).toBracket
      (batch.1.map (reportOf K hex)) =
        (progress K hex reported (reported ++ batch.1)).toBracket := by
    rw [recordResults_eq, recordAll_progress]
  have hdecided := finalDecided_progress hK hpos hex reported (reported ++ batch.1)
  rw [batchCall, Call.program, discard_eval]
  by_cases hfinal : (K.rounds - 1, 0) ∈ batch.1
  · -- The batch with the final completes the tournament.
    have hmem : (K.rounds - 1, 0) ∈ reported ++ batch.1 := List.mem_append_right _ hfinal
    rw [decide_eq_true hmem, ← hrecorded] at hdecided
    have hpay' : Payable t (playedTournament x K hex reported) := by
      rw [h.rest]
      exact ⟨hpay.escrow, hpay.fee, hpay.whole, hpay.total⟩
    have hends := advanceRound_completes
      { tournamentId := x.tournamentId, results := batch.1.map (reportOf K hex), now := batch.2 }
        hpay' h.row hstatus rfl hdecided
    rw [hrecorded] at hends
    refine Or.inr ⟨hmem, _, reported, hends.1, rfl, rfl, played_of_final hK horderly hfinal,
      fun p hp => ?_⟩
    have hregistered : t.isRegistered x.tournamentId p := by
      rw [h.rest]
      exact hp
    have hplacement : t.placementOf x.tournamentId p = s.placementOf x.tournamentId p := by
      rw [h.rest]
      rfl
    rw [← hplacement]
    exact hends.2 p hregistered
  · -- Without the final the batch is recorded and the winners go on.
    have hnot : (K.rounds - 1, 0) ∉ reported ++ batch.1 := by
      rw [List.mem_append]
      exact fun hmem => hmem.elim h.final hfinal
    rw [decide_eq_false hnot, ← hrecorded] at hdecided
    have hends := advanceRound_moves
      { tournamentId := x.tournamentId, results := batch.1.map (reportOf K hex), now := batch.2 }
        h.row hstatus rfl hdecided
    rw [hrecorded, advanced_progress hK] at hends
    rw [hends]
    refine Or.inl ⟨?_, ?_, hnot⟩
    · exact Table.findOne_save_self t.tournaments (playedTournament x K hex (reported ++ batch.1))
    · rw [h.rest]

/-- After the final there is nothing left to report, and an empty batch is
    refused. -/
theorem finished_batch (h : Finished s x K hex reported t) {batch : Batch}
    (horderly : ∀ m ∈ batch.1, IsSlot K.rounds m.1 m.2 ∧ m ∉ reported ∧
      ∀ r ≤ m.1, seatsFilled K.rounds reported r = true) :
    Finished s x K hex (reported ++ batch.1)
      ((batchCall K hex x.tournamentId batch).program.eval t).2 := by
  rcases h.completed with ⟨y, seen, hrow, hstatus, -, hplayed, -⟩
  -- Everything was reported, and an orderly batch reports only what is new.
  have hnil : batch.1 = [] := by
    rw [List.eq_nil_iff_forall_not_mem]
    intro m hm
    rcases horderly m hm with ⟨hslot, hnew, -⟩
    exact hnew (hplayed.reported m.1 m.2 hslot)
  rw [batchCall, Call.program, discard_eval, advanceRound_refused
    { tournamentId := x.tournamentId, results := batch.1.map (reportOf K hex), now := batch.2 }
      hrow (by rw [hstatus]; decide), hnil, List.append_nil]
  exact h

/-- What all batches together do, by induction on the batches. -/
theorem batches_played (hpay : Payable s x) (hstatus : x.status = .IN_PROGRESS) (hK : Named K)
    (hpos : 0 < K.rounds) (batches : List Batch) (h : Underway s x K hex reported t ∨
      Finished s x K hex reported t) (horderly : Orderly K.rounds reported batches) :
    let u := t.after (Run.calmly (batches.map (batchCall K hex x.tournamentId)))
    Underway s x K hex (reported ++ batches.flatMap Prod.fst) u ∨
      Finished s x K hex (reported ++ batches.flatMap Prod.fst) u := by
  induction batches generalizing t reported with
  | nil =>
      rw [List.flatMap_nil, List.append_nil]
      exact h
  | cons batch rest ih =>
      rcases horderly with ⟨-, hbatch, hrest⟩
      have hone : Underway s x K hex (reported ++ batch.1)
          ((batchCall K hex x.tournamentId batch).program.eval t).2 ∨
            Finished s x K hex (reported ++ batch.1)
              ((batchCall K hex x.tournamentId batch).program.eval t).2 := by
        -- A finished bracket is not changed by what is still reported.
        rcases h with hunder | hfinished
        · exact underway_batch hpay hstatus hK hpos hunder batch hbatch
        · exact Or.inr (finished_batch hfinished hbatch)
      rw [List.map_cons, after_calmly_cons, List.flatMap_cons, ← List.append_assoc]
      exact ih hone hrest

/-! ### What the reports come to -/

/-- Whoever is seated in a later round has won the match that leads there. -/
def FilledByWinners (bracket : Bracket) : Prop :=
  ∀ r j m first second, bracket.matchAt (r + 1) j = some m → bracket.feeds r j first second →
    m.hasPlayers → truthy first.winnerId = true ∧ truthy second.winnerId = true ∧
      m.player1Id = first.winnerId ∧ m.player2Id = second.winnerId

/-- Every player of the knockout is placed: the champion first, one half of the
    rest by the first round, one half of what remains by the next, and so on,
    and whoever loses later is placed better. -/
structure PlacedByRounds (t : Db) (tournamentId : String) (ids : List String)
    (K : Knockout String) : Prop where
  everyone : ∀ id ∈ ids, ∃ v, t.placementOf tournamentId id = some v
  champion : t.placementOf tournamentId K.champion = some 1
  only : ∀ id ∈ ids, t.placementOf tournamentId id = some 1 → id = K.champion
  first : (ids.filter fun id => t.placementOf tournamentId id = some 1).length = 1
  counts : ∀ j < K.rounds,
    (ids.filter fun id => t.placementOf tournamentId id = some (2 ^ (j + 1))).length = 2 ^ j
  order : ∀ r j r' j', IsSlot K.rounds r j → IsSlot K.rounds r' j' → r < r' →
    ∃ v v', t.placementOf tournamentId (K.loser r j) = some v ∧
      t.placementOf tournamentId (K.loser r' j') = some v' ∧ v' < v

/-- The reports stand in the bracket: rounds that are due have their players,
    and the matches reported have their winners. -/
def Shows (bracket : Bracket) (K : Knockout String) (reported : List (Nat × Nat)) : Prop :=
  ∀ r j, IsSlot K.rounds r j → ∃ m, bracket.matchAt r j = some m ∧
    (seatsFilled K.rounds reported r = true →
      m.player1Id = some (K.survivor r (2 * j)) ∧ m.player2Id = some (K.survivor r (2 * j + 1))) ∧
    m.winnerId = if (r, j) ∈ reported then some (K.survivor (r + 1) j) else none

theorem progress_filledByWinners (hK : Named K) {seen : List (Nat × Nat)}
    (hseen : ∀ r j, IsSlot K.rounds r j → (r, j) ∈ seen → (r, j) ∈ reported) :
    FilledByWinners (progress K hex seen reported).toBracket := by
  intro r j m first second hm hfeeds hplayers
  rcases slot_of_matchAt hm with ⟨hslot, rfl⟩
  rcases slot_of_matchAt hfeeds.1 with ⟨hfirst, rfl⟩
  rcases slot_of_matchAt hfeeds.2 with ⟨hsecond, rfl⟩
  have hslot' : IsSlot K.rounds (r + 1) j := hslot
  -- Nobody sits in a round that is not due.
  have hfilled : seatsFilled K.rounds seen (r + 1) = true := by
    by_contra hempty
    simp [BracketMatch.hasPlayers, Sheet.matchOf, Cell.toMatch, progress, hempty] at hplayers
  have hmem := seatsFilled_succ.mp hfilled
  have h1 := hseen r (2 * j) hfirst (hmem _ hfirst.2)
  have h2 := hseen r (2 * j + 1) hsecond (hmem _ hsecond.2)
  have hsub : K.rounds - (r + 1) = K.rounds - 1 - r := by omega
  have hname : ∀ i < 2 ^ (K.rounds - 1 - r), truthy (some (K.survivor (r + 1) i)) = true := by
    intro i hi
    exact hK.survivor (Nat.le_of_lt hslot'.1) (by rw [hsub]; exact hi)
  simp [Sheet.matchOf, Cell.toMatch, progress, hfilled, h1, h2, hname _ hfirst.2,
    hname _ hsecond.2]

theorem progress_shows {seen : List (Nat × Nat)}
    (hseen : ∀ r < K.rounds, seatsFilled K.rounds reported r = true →
      seatsFilled K.rounds seen r = true) :
    Shows (progress K hex seen reported).toBracket K reported := by
  intro r j hslot
  have hslot' : IsSlot (progress K hex seen reported).rounds r j := hslot
  refine ⟨_, matchAt_slot hslot', fun hfilled => ?_, rfl⟩
  have hyes := hseen r hslot.1 hfilled
  simp [Sheet.matchOf, Cell.toMatch, progress, hyes]

end Playing

/-! ### Counting placements -/

section Counting

variable {k : Nat} {ids : List String} (hlength : ids.length = 2 ^ k) (hids : ids.Nodup)
  (first : Nat → Nat → String → String → Bool)

/-- The players of the knockout are the ids. -/
theorem mem_ids_iff (id : String) : id ∈ ids ↔
    ∃ i < 2 ^ k, (bracketKnockout k ids hlength hids first).entrant i = id := by
  constructor
  · intro hid
    rcases List.mem_iff_getElem.mp hid with ⟨i, hi, rfl⟩
    exact ⟨i, hlength ▸ hi, List.getD_eq_getElem _ _ hi⟩
  · intro h
    rcases h with ⟨i, hi, rfl⟩
    rw [← hlength] at hi
    change ids.getD i "" ∈ ids
    rw [List.getD_eq_getElem _ _ hi]
    exact List.getElem_mem hi

theorem survivor_mem_ids {r j : Nat} (hr : r ≤ k) (hj : j < 2 ^ (k - r)) :
    (bracketKnockout k ids hlength hids first).survivor r j ∈ ids := by
  have hj' : j < 2 ^ ((bracketKnockout k ids hlength hids first).rounds - r) := hj
  rcases (bracketKnockout k ids hlength hids first).survivor_mem hr hj' with ⟨i, hi, hs⟩
  rw [mem_ids_iff hlength hids first]
  exact ⟨i, hi, hs.symm⟩

theorem loser_mem_ids {r j : Nat} (hslot : IsSlot k r j) :
    (bracketKnockout k ids hlength hids first).loser r j ∈ ids := by
  have hslot' : IsSlot (bracketKnockout k ids hlength hids first).rounds r j := hslot
  rcases (bracketKnockout k ids hlength hids first).loser_eq_survivor hslot' with ⟨i, hi, -, hl⟩
  rw [hl]
  exact survivor_mem_ids hlength hids first (Nat.le_of_lt hslot.1) hi

theorem champion_mem_ids : (bracketKnockout k ids hlength hids first).champion ∈ ids :=
  survivor_mem_ids hlength hids first (le_refl k) (Nat.two_pow_pos _)

/-- A player of the knockout is the champion or has lost a match. -/
theorem champion_or_loser_of_mem {id : String} (hid : id ∈ ids) :
    id = (bracketKnockout k ids hlength hids first).champion ∨ ∃ r j, IsSlot k r j ∧
      id = (bracketKnockout k ids hlength hids first).loser r j := by
  rcases (mem_ids_iff hlength hids first id).mp hid with ⟨i, hi, rfl⟩
  exact (bracketKnockout k ids hlength hids first).champion_or_loser hi

end Counting

/-- As many elements of a list satisfy a predicate as there are indices, when
    the indices list them without repetition. -/
theorem length_filter_of_indexed {l : List String} (hl : l.Nodup) {p : String → Bool} {n : Nat}
    {f : Nat → String} (hf : ∀ i < n, ∀ j < n, f i = f j → i = j)
    (hp : ∀ a, a ∈ l ∧ p a = true ↔ ∃ i < n, f i = a) : (l.filter p).length = n := by
  have hnodup : ((List.range n).map f).Nodup := by
    refine List.Nodup.map_on (fun i hi j hj h => ?_) List.nodup_range
    exact hf i (List.mem_range.mp hi) j (List.mem_range.mp hj) h
  have hperm : (l.filter p).Perm ((List.range n).map f) := by
    rw [List.perm_ext_iff_of_nodup (hl.filter p) hnodup]
    intro a
    rw [List.mem_filter, hp a, List.mem_map]
    simp only [List.mem_range]
  rw [hperm.length_eq, List.length_map, List.length_range]

section Placing

variable {k : Nat} {ids : List String} {hlength : ids.length = 2 ^ k} {hids : ids.Nodup}
  {first : Nat → Nat → String → String → Bool} {s t : Db} {x : Tournament} {hex : BracketHex}
  {reported : List (Nat × Nat)}

/-- Placements by rounds, from what the champion and the losers got. -/
theorem placedByRounds_of {tournamentId : String}
    (hchampion : t.placementOf tournamentId
      (bracketKnockout k ids hlength hids first).champion = some 1)
    (hloser : ∀ r j, IsSlot k r j → t.placementOf tournamentId
      ((bracketKnockout k ids hlength hids first).loser r j) = some (2 ^ (k - r))) :
    PlacedByRounds t tournamentId ids (bracketKnockout k ids hlength hids first) := by
  have hpow : ∀ {m n : Nat}, (2 : ℚ) ^ m = 2 ^ n → m = n := fun h =>
    pow_right_injective₀ (by norm_num) (by norm_num) h
  have hmem := fun (id : String) (hid : id ∈ ids) =>
    champion_or_loser_of_mem hlength hids first hid
  have honly : ∀ id ∈ ids, t.placementOf tournamentId id = some 1 →
      id = (bracketKnockout k ids hlength hids first).champion := by
    intro id hid hone
    rcases hmem id hid with rfl | ⟨r, j, hslot, rfl⟩
    · rfl
    · rw [hloser r j hslot, Option.some.injEq] at hone
      -- A loser's place is a power of two above one.
      have hzero := hpow (n := 0) (hone.trans (pow_zero _).symm)
      have hr := hslot.1
      omega
  refine ⟨fun id hid => ?_, hchampion, honly, ?_, fun j hj => ?_,
    fun r j r' j' hslot hslot' hlt => ?_⟩
  · rcases hmem id hid with rfl | ⟨r, j, hslot, rfl⟩
    · exact ⟨_, hchampion⟩
    · exact ⟨_, hloser r j hslot⟩
  · -- The champion alone is first.
    refine length_filter_of_indexed
      (f := fun _ => (bracketKnockout k ids hlength hids first).champion) hids
      (fun i hi j hj _ => by omega) fun id => ⟨fun h => ⟨0, Nat.zero_lt_one, ?_⟩, fun h => ?_⟩
    · exact (honly id h.1 (of_decide_eq_true h.2)).symm
    · rcases h with ⟨i, -, rfl⟩
      exact ⟨champion_mem_ids hlength hids first, decide_eq_true hchampion⟩
  · -- Those who are placed so lost in the round with so many matches.
    have hj' : j < k := hj
    have hsize : k - 1 - (k - 1 - j) = j := by omega
    have hplace : k - (k - 1 - j) = j + 1 := by omega
    have hslots : ∀ i < 2 ^ j, IsSlot k (k - 1 - j) i := by
      intro i hi
      refine ⟨by omega, ?_⟩
      rw [hsize]
      exact hi
    refine length_filter_of_indexed
      (f := (bracketKnockout k ids hlength hids first).loser (k - 1 - j)) hids
      (fun i hi i' hi' h => ?_) fun id => ⟨fun h => ?_, fun h => ?_⟩
    · exact ((bracketKnockout k ids hlength hids first).loser_inj (hslots i hi) (hslots i' hi')
        h).2
    · have hplaced := of_decide_eq_true h.2
      rcases hmem id h.1 with rfl | ⟨r, i, hslot, rfl⟩
      · rw [hchampion, Option.some.injEq] at hplaced
        exact nomatch hpow ((pow_zero _).trans hplaced)
      · rw [hloser r i hslot, Option.some.injEq] at hplaced
        have hr := hpow hplaced
        have hlt := hslot.1
        obtain rfl : r = k - 1 - j := by omega
        refine ⟨i, ?_, rfl⟩
        have hi := hslot.2
        rwa [hsize] at hi
    · rcases h with ⟨i, hi, rfl⟩
      refine ⟨loser_mem_ids hlength hids first (hslots i hi), decide_eq_true ?_⟩
      rw [hloser _ _ (hslots i hi), hplace]
  · -- Whoever loses later is placed by a smaller power.
    have hr' : r' < k := hslot'.1
    refine ⟨_, _, hloser r j hslot, hloser r' j' hslot', ?_⟩
    exact pow_lt_pow_right₀ (by norm_num) (by omega)

theorem finished_placedByRounds (hk : 1 ≤ k)
    (hregistered : ∀ id ∈ ids, s.isRegistered x.tournamentId id)
    (h : Finished s x (bracketKnockout k ids hlength hids first) hex reported t) :
    PlacedByRounds t x.tournamentId ids (bracketKnockout k ids hlength hids first) := by
  rcases h.completed with ⟨y, seen, -, -, -, hplayed, hplaced⟩
  refine placedByRounds_of ?_ fun r j hslot => ?_
  · rw [hplaced _ (hregistered _ (champion_mem_ids hlength hids first)),
      placement_champion hex hplayed hk]
    rfl
  · rw [hplaced _ (hregistered _ (loser_mem_ids hlength hids first hslot)),
      placement_loser hex hplayed hslot]
    rfl

end Placing

/-! ### Every schedule -/

/-- A tournament in play begins with nothing reported. -/
theorem inPlay_underway {s : Db} {x : Tournament} {hex : BracketHex} {ids : List String} {k : Nat}
    (hplay : InPlay s x hex ids) (hlength : ids.length = 2 ^ k)
    (first : Nat → Nat → String → String → Bool) :
    Underway s x (bracketKnockout k ids hlength hplay.different first) hex [] s := by
  have hsame : playedTournament x (bracketKnockout k ids hlength hplay.different first) hex [] =
      x := by
    have hbracket := hplay.bracket
    rw [generate_eq, generated_progress hlength hplay.different first hplay.named] at hbracket
    unfold playedTournament
    rw [← hbracket]
  refine ⟨?_, rfl, List.not_mem_nil⟩
  rw [hsame]
  exact hplay.row

/-- A tournament of two to some power players, at least two, whose results are
    reported in any batches, each round finished before the next begins. It is
    completed exactly when the final is among the reports, whoever is seated
    has won the match before, and in the end the rounds place everybody. The
    batches are any orderly ones, so this is every state on the way as well. -/
theorem powerOfTwo_batches {s : Db} {x : Tournament} {hex : BracketHex} {ids : List String}
    {k : Nat} (hplay : InPlay s x hex ids) (hk : 1 ≤ k) (hlength : ids.length = 2 ^ k)
    (first : Nat → Nat → String → String → Bool) (batches : List Batch)
    (horderly : Orderly k [] batches) :
    let K := bracketKnockout k ids hlength hplay.different first
    let reported := batches.flatMap Prod.fst
    let t := s.after (Run.calmly (batches.map (batchCall K hex x.tournamentId)))
    ∃ y bracket, t.tournaments.findOne x.tournamentId = some y ∧ y.bracket = some bracket ∧
      y.status = (if (k - 1, 0) ∈ reported then .COMPLETED else .IN_PROGRESS) ∧
      FilledByWinners bracket ∧ Shows bracket K reported ∧
      ((k - 1, 0) ∈ reported → PlacedByRounds t x.tournamentId ids K) := by
  intro K reported t
  have hK : Named K := bracketKnockout_named hlength hplay.different first hplay.named
  have hstart : Underway s x K hex [] s := inPlay_underway hplay hlength first
  have hends := batches_played hplay.toPayable hplay.status hK hk batches (Or.inl hstart) horderly
  rw [List.nil_append] at hends
  -- Either the final is still to come, or it was reported and the tournament is
  -- finished.
  rcases hends with hunder | hfinished
  · have hopen : (k - 1, 0) ∉ reported := hunder.final
    refine ⟨_, _, hunder.row, rfl, ?_, progress_filledByWinners hK fun _ _ _ h => h,
      progress_shows fun _ _ h => h, fun h => absurd h hopen⟩
    rw [if_neg hopen]
    exact hplay.status
  · have hfinal : (k - 1, 0) ∈ reported := hfinished.final
    rcases hfinished.completed with ⟨y, seen, hrow, hstatus, hbracket, hplayed, -⟩
    refine ⟨y, _, hrow, hbracket, ?_, ?_, ?_,
      fun _ => finished_placedByRounds hk hplay.registered hfinished⟩
    · rw [if_pos hfinal, hstatus]
    · exact progress_filledByWinners hK fun r j hslot _ => hplayed.reported r j hslot
    · exact progress_shows fun r hr _ => hplayed.filled r hr

/-- What being in play depends on, beside the players. -/
structure PlayFacts where
  bracketType : BracketType
  status : TournamentStatus
  bracket : Option Bracket
  platformFeePercent : ℚ
  prizeStructure : List PrizeEntry
  escrowStatus : EscrowStatus
  balance : Int
  escrowFeePercent : ℚ
  deriving DecidableEq

/-- What has to be checked of a started tournament. -/
def playFacts (s : Db) : Option PlayFacts :=
  (s.tournaments.findOne "t").bind fun x =>
    (s.escrows.findOne x.source).map fun escrow =>
      ⟨x.bracketType, x.status, x.bracket, x.platformFeePercent, x.prizeStructure, escrow.status,
        escrow.currentBalance, escrow.platformFeePercent⟩

/-- A started tournament is in play. -/
theorem inPlay_of_playFacts {s : Db} {hex : BracketHex} {ids : List String} (balance : Int)
    (hbalance : 0 < balance)
    (hfacts : playFacts s = some ⟨.SINGLE_ELIMINATION, .IN_PROGRESS,
      some (generateBracketStructure .SINGLE_ELIMINATION hex ids), 5,
      (prizeStrategyConfig .TOP_3_SPLIT).structure_, .LOCKED, balance, 5⟩)
    (hids : ids.Nodup) (hnamed : ∀ id ∈ ids, id ≠ "")
    (hregistered : ∀ id ∈ ids, (s.registrations.findOne ("t", id)).isSome = true) :
    ∃ x, x.tournamentId = "t" ∧ InPlay s x hex ids := by
  rcases Option.bind_eq_some_iff.mp hfacts with ⟨x, hfind, hx⟩
  rcases Option.map_eq_some_iff.mp hx with ⟨escrow, hescrow, hsame⟩
  rw [PlayFacts.mk.injEq] at hsame
  rcases hsame with ⟨htype, hstatus, hbracket, hfee, hstructure, hlocked, hcurrent, hpercent⟩
  have hkey : x.tournamentId = "t" := Table.key_of_findOne hfind
  have hwhole : ∀ entry ∈ (prizeStrategyConfig .TOP_3_SPLIT).structure_,
      entry.IsWhole ∧ entry.fixedAmount = none := by
    decide +kernel
  refine ⟨x, hkey, ⟨⟨⟨escrow, hescrow, hlocked, ?_, ?_⟩, ?_, ?_, ?_⟩, ?_, hstatus, ?_, hids,
    hnamed, fun id hid => ?_⟩⟩
  · -- What is left are the fields of the row and of its escrow, one by one.
    rw [hcurrent]
    exact hbalance
  · rw [hpercent, hfee]
  · rw [hfee]
    decide +kernel
  · rw [hstructure]
    exact hwhole
  · rw [hstructure]
    decide +kernel
  · rw [hkey]
    exact hfind
  · rw [hbracket, htype]
  · rw [hkey]
    exact Option.isSome_iff_exists.mp (hregistered id hid)

/-- Four players, the second semifinal reported before the first. -/
theorem powerOfTwo_batches_startedTournament :
    ∃ y bracket, ((startedTournament ["a", "b", "c", "d"]).after (Run.calmly
        ([([(0, 1)], 0), ([(0, 0)], 1), ([(1, 0)], 2)].map
          (batchCall (bracketKnockout 2 ["a", "b", "c", "d"] rfl (by decide)
            fun _ _ _ _ => true) (fun _ _ => "m") "t")))).tournaments.findOne "t" = some y ∧
      y.status = .COMPLETED ∧ y.bracket = some bracket ∧
      FilledByWinners bracket := by
  have hplay : ∃ x, x.tournamentId = "t" ∧
      InPlay (startedTournament ["a", "b", "c", "d"]) x (fun _ _ => "m") ["a", "b", "c", "d"] :=
    inPlay_of_playFacts 4000000 (by decide) (by decide +kernel) (by decide)
      (by decide) (by decide +kernel)
  rcases hplay with ⟨x, hkey, hx⟩
  have hends := powerOfTwo_batches hx (k := 2) (by decide) rfl (fun _ _ _ _ => true)
    [([(0, 1)], 0), ([(0, 0)], 1), ([(1, 0)], 2)] (by decide)
  rw [hkey] at hends
  rcases hends with ⟨y, bracket, hy, hbracket, hstatus, hfilled, -, -⟩
  exact ⟨y, bracket, hy, hstatus, hbracket, hfilled⟩

end Esports

end SvmCourse
