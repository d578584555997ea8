import SvmCourse.Esports.Batches
import SvmCourse.Esports.Reports

/-!
# Playing to the Champion

A tournament in progress is played by reporting every match that has two
players and no winner, again and again. For a power of two players each call
is the batch of one round, and the last call leaves the champion of the
knockout, who has lost nothing, while everybody else has lost once.

For any other number of players this fails, in one of two ways. When the number
is odd, building the bracket hands the last player a bye in every round, the
final included, so the first call finds the final decided and completes the
tournament after the first round. When it is even, the bracket has a match in
the first round that nobody plays and nobody wins, so that round is never
complete and no one moves on.

## Main definitions

* `Bracket.playable`: The matches with two players and no winner.
* `playCalls`: Reporting all of them, so many times.
* `TrueChampion`: The tournament is played to its champion.

## Theorems

* `playCalls_played`: Playing a power of two players.
* `oddBracket_completes`: The first call completes an odd bracket.
* `evenBracket_stuck`: The first call leaves an even bracket stuck.
* `trueChampion_iff`: A tournament finds its champion if and only if the
  number of its players is a power of two.
-/

namespace SvmCourse

namespace Esports

open Core Core.Prog

/-- Both players are there and nobody has won. -/
def BracketMatch.playable (m : BracketMatch) : Bool :=
  truthy m.player1Id && truthy m.player2Id && !truthy m.winnerId

/-- The matches that can be played now. -/
def Bracket.playable (bracket : Bracket) : List BracketMatch :=
  bracket.rounds.flatMap fun round => round.matchList.filter BracketMatch.playable

/-- Whether the first of the two players wins a match. -/
abbrev Choice := BracketMatch → Bool

/-- Who is reported as the winner of a match. -/
def winnerOf (choice : Choice) (m : BracketMatch) : String :=
  (if choice m then m.player1Id else m.player2Id).getD ""

/-- Who is beaten then. -/
def beaten (choice : Choice) (m : BracketMatch) : String :=
  (if choice m then m.player2Id else m.player1Id).getD ""

/-- The results of all matches that can be played. -/
def playResults (choice : Choice) (bracket : Bracket) : List BracketResult :=
  bracket.playable.map fun m => { matchId := m.matchId, winnerId := winnerOf choice m }

/-- Report what can be played, while the tournament is in progress. -/
def playCall (choice : Choice) (tournamentId : String) (now : Int) (s : Db) :
    List BracketMatch × Db :=
  match s.openBracket tournamentId with
  | some bracket =>
    (bracket.playable, ((advanceRound
      { tournamentId := tournamentId
        results := playResults choice bracket
        now := now }).eval s).2)
  | none => ([], s)

/-- The matches reported in so many calls, and the store after them. -/
def playCalls (choice : Choice) (clock : Nat → Int) (tournamentId : String) (s : Db) :
    Nat → List BracketMatch × Db
  | 0 => ([], s)
  | n + 1 =>
    let before := playCalls choice clock tournamentId s n
    let call := playCall choice tournamentId (clock n) before.2
    (before.1 ++ call.1, call.2)

/-- After some number of calls the tournament is completed with one match less
    than it has players. The one player placed first has lost none of them and
    everybody else exactly one. As long as the tournament is in progress, some
    match can be played. -/
structure TrueChampion (s : Db) (tournamentId : String) (ids : List String) (choice : Choice)
    (clock : Nat → Int) : Prop where
  ends : ∃ n y champion,
    let played := playCalls choice clock tournamentId s n
    played.2.tournaments.findOne tournamentId = some y ∧ y.status = .COMPLETED ∧
      played.1.length + 1 = ids.length ∧ champion ∈ ids ∧
      (∀ id ∈ ids, played.2.placementOf tournamentId id = some 1 ↔ id = champion) ∧
      (played.1.map (beaten choice)).count champion = 0 ∧
      ∀ id ∈ ids, id ≠ champion → (played.1.map (beaten choice)).count id = 1
  goesOn : ∀ n bracket,
    (playCalls choice clock tournamentId s n).2.openBracket tournamentId = some bracket →
      bracket.playable ≠ []

/-- Only one index of a range contributes. -/
theorem flatMap_range_single {α : Type} {f : Nat → List α} {n i : Nat} (hi : i < n)
    (h : ∀ r < n, r ≠ i → f r = []) : (List.range n).flatMap f = f i := by
  induction n with
  | zero => omega
  | succ n ih =>
      rw [List.range_succ, List.flatMap_append, List.flatMap_singleton]
      by_cases hlast : i = n
      · -- Nothing comes before the last index.
        have hnil : (List.range n).flatMap f = [] := by
          rw [List.flatMap_eq_nil_iff]
          intro r hr
          have hlt := List.mem_range.mp hr
          exact h r (by omega) (by omega)
        rw [hnil, List.nil_append, hlast]
      · rw [ih (by omega) fun r hr hne => h r (by omega) hne, h n (by omega)
          fun he => hlast he.symm,
          List.append_nil]

/-- With only one round that has something to play. -/
theorem playable_toBracket {sheet : Sheet} {r : Nat} (hr : r < sheet.rounds)
    (h : ∀ q j, IsSlot sheet.rounds q j → q ≠ r → (sheet.matchOf q j).playable = false) :
    sheet.toBracket.playable = (sheet.round r).matchList.filter BracketMatch.playable := by
  unfold Bracket.playable Sheet.toBracket
  rw [List.flatMap_map]
  refine flatMap_range_single hr fun q hq hne => ?_
  rw [List.filter_eq_nil_iff]
  intro m hm
  rcases List.mem_map.mp hm with ⟨j, hj, rfl⟩
  rw [h q j ⟨hq, List.mem_range.mp hj⟩ hne]
  exact Bool.false_ne_true

section Closed

variable {choice : Choice} {clock : Nat → Int} {tournamentId : String} {s : Db}

/-- Once the tournament is over, further calls do nothing. -/
theorem playCalls_closed {n : Nat}
    (h : (playCalls choice clock tournamentId s n).2.openBracket tournamentId = none) (m : Nat) :
    playCalls choice clock tournamentId s (n + m) = playCalls choice clock tournamentId s n := by
  induction m with
  | zero => rfl
  | succ m ih =>
      rw [← Nat.add_assoc, playCalls, ih, playCall, h]
      simp

theorem openBracket_some {x : Tournament} {bracket : Bracket}
    (hfind : s.tournaments.findOne tournamentId = some x) (hstatus : x.status = .IN_PROGRESS)
    (hbracket : x.bracket = some bracket) : s.openBracket tournamentId = some bracket := by
  unfold Db.openBracket
  rw [hfind, Option.bind_some, if_pos hstatus, hbracket]

theorem openBracket_none {x : Tournament} (hfind : s.tournaments.findOne tournamentId = some x)
    (hstatus : x.status = .COMPLETED) : s.openBracket tournamentId = none := by
  unfold Db.openBracket
  rw [hfind, Option.bind_some, hstatus, if_neg]
  exact fun h => nomatch h

end Closed

/-! ### A power of two players -/

section Perfect

variable {s t : Db} {x : Tournament} {K : Knockout String} {hex : BracketHex} {choice : Choice}

/-- A match of the knockout when it is due. -/
def dueMatch (K : Knockout String) (hex : BracketHex) (m : Nat × Nat) : BracketMatch where
  matchId := slotId hex m.1 m.2
  player1Id := some (K.survivor m.1 (2 * m.2))
  player2Id := some (K.survivor m.1 (2 * m.2 + 1))
  winnerId := none
  status := .pending

/-- The winners of the knockout are chosen by what its matches look like. -/
def Follows (K : Knockout String) (hex : BracketHex) (choice : Choice) : Prop :=
  ∀ r j a b, K.first r j a b = choice
    { matchId := slotId hex r j
      player1Id := some a
      player2Id := some b
      winnerId := none
      status := .pending }

theorem winnerOf_dueMatch (hfollows : Follows K hex choice) (m : Nat × Nat) :
    winnerOf choice (dueMatch K hex m) = K.survivor (m.1 + 1) m.2 ∧
      beaten choice (dueMatch K hex m) = K.loser m.1 m.2 := by
  have hfirst := hfollows m.1 m.2 (K.survivor m.1 (2 * m.2)) (K.survivor m.1 (2 * m.2 + 1))
  unfold winnerOf beaten Knockout.loser
  rw [Knockout.survivor, hfirst]
  -- The slots follow the choice, and so do the two players.
  by_cases h : choice (dueMatch K hex m) = true
  · have h' := h
    unfold dueMatch at h'
    rw [if_pos h, if_pos h, if_pos h', if_pos h']
    exact ⟨rfl, rfl⟩
  · have h' := h
    unfold dueMatch at h'
    rw [if_neg h, if_neg h, if_neg h', if_neg h']
    exact ⟨rfl, rfl⟩

/-- The first rounds fill the seats up to the round after them. -/
theorem seatsFilled_slotsBefore (k rounds r : Nat) :
    seatsFilled k (slotsBefore k rounds) r = decide (r ≤ rounds) := by
  cases r with
  | zero => simp [seatsFilled]
  | succ r =>
      rw [Bool.eq_iff_iff, seatsFilled_succ, decide_eq_true_eq]
      constructor
      · intro h
        exact (mem_slotsBefore.mp (h 0 (Nat.two_pow_pos _))).1
      · intro h j hj
        exact mem_slotsBefore.mpr ⟨h, hj⟩

/-- After so many rounds the matches of the next one can be played, and no
    others. -/
theorem playable_progress (hK : Named K) {n : Nat} (hn : n < K.rounds) :
    (progress K hex (slotsBefore K.rounds n) (slotsBefore K.rounds n)).toBracket.playable =
      (roundSlots K.rounds n).map (dueMatch K hex) := by
  have hround : ∀ j < 2 ^ (K.rounds - 1 - n),
      (progress K hex (slotsBefore K.rounds n) (slotsBefore K.rounds n)).matchOf n j =
        dueMatch K hex (n, j) := by
    intro j hj
    have hnew : (n, j) ∉ slotsBefore K.rounds n := fun h =>
      absurd (mem_slotsBefore.mp h).1 (Nat.lt_irrefl n)
    simp [Sheet.matchOf, Cell.toMatch, progress, seatsFilled_slotsBefore, hnew, dueMatch]
  rw [playable_toBracket (r := n) hn ?_]
  · unfold Sheet.round roundSlots
    rw [List.map_map, List.filter_eq_self.mpr ?_]
    · exact List.map_congr_left fun j hj => hround j (List.mem_range.mp hj)
    · intro m hm
      rcases List.mem_map.mp hm with ⟨j, hj, rfl⟩
      have hj' : j < 2 ^ (K.rounds - 1 - n) := List.mem_range.mp hj
      have hhalf := two_pow_sub hn
      have h1 := hK.survivor (j := 2 * j) (Nat.le_of_lt hn) (by omega)
      have h2 := hK.survivor (j := 2 * j + 1) (Nat.le_of_lt hn) (by omega)
      rw [hround j hj']
      simp [BracketMatch.playable, dueMatch, h1, h2]
  · intro q j hslot hne
    have hslot' : IsSlot K.rounds q j := hslot
    rcases Nat.lt_or_gt_of_ne hne with hlt | hlt
    · -- Matches of the earlier rounds have their winners.
      have hsub : K.rounds - (q + 1) = K.rounds - 1 - q := by omega
      have hwinner := hK.survivor (r := q + 1) (j := j) (by omega) (by rw [hsub]; exact hslot'.2)
      have hmem : (q, j) ∈ slotsBefore K.rounds n := mem_slotsBefore.mpr ⟨hlt, hslot'.2⟩
      simp [BracketMatch.playable, Sheet.matchOf, Cell.toMatch, progress, hmem, hwinner]
    · -- Matches of later rounds have no players.
      have hempty : ¬q ≤ n := by omega
      simp [BracketMatch.playable, Sheet.matchOf, Cell.toMatch, progress, seatsFilled_slotsBefore,
        hempty]

/-- A call reports the round that is due. -/
theorem playCall_underway (hstatus : x.status = .IN_PROGRESS) (hK : Named K)
    (hfollows : Follows K hex choice) {n : Nat} (hn : n < K.rounds)
    (h : Underway s x K hex (slotsBefore K.rounds n) t) (now : Int) :
    playCall choice x.tournamentId now t =
      ((roundSlots K.rounds n).map (dueMatch K hex),
        ((batchCall K hex x.tournamentId (roundSlots K.rounds n, now)).program.eval t).2) := by
  have hopen : t.openBracket x.tournamentId =
      some (progress K hex (slotsBefore K.rounds n) (slotsBefore K.rounds n)).toBracket :=
    openBracket_some h.row hstatus rfl
  -- Who wins the matches that are due is who survives in the tree.
  have hresults : playResults choice
      (progress K hex (slotsBefore K.rounds n) (slotsBefore K.rounds n)).toBracket =
        (roundSlots K.rounds n).map (reportOf K hex) := by
    unfold playResults
    rw [playable_progress hK hn, List.map_map]
    refine List.map_congr_left fun m _ => ?_
    rw [Function.comp_apply, (winnerOf_dueMatch hfollows m).1]
    rfl
  unfold playCall
  rw [hopen, batchCall, Call.program, discard_eval]
  simp only
  rw [hresults, playable_progress hK hn]

/-- After so many calls so many rounds are played. -/
theorem playCalls_played (hpay : Payable s x) (hstatus : x.status = .IN_PROGRESS) (hK : Named K)
    (hpos : 0 < K.rounds) (hfollows : Follows K hex choice) (clock : Nat → Int)
    (hstart : Underway s x K hex [] s) {n : Nat} (hn : n ≤ K.rounds) :
    let played := playCalls choice clock x.tournamentId s n
    played.1 = (slotsBefore K.rounds n).map (dueMatch K hex) ∧
      (Underway s x K hex (slotsBefore K.rounds n) played.2 ∨
        Finished s x K hex (slotsBefore K.rounds n) played.2) := by
  -- On the number of calls.
  induction n with
  | zero => exact ⟨rfl, Or.inl hstart⟩
  | succ n ih =>
      rcases ih (by omega) with ⟨hreported, hstore⟩
      have hunder : Underway s x K hex (slotsBefore K.rounds n)
          (playCalls choice clock x.tournamentId s n).2 := by
        -- The final is a later round, so the tournament cannot be finished yet.
        refine hstore.resolve_right fun hfinished => ?_
        have hlast := (mem_slotsBefore.mp hfinished.final).1
        omega
      have hcall := playCall_underway hstatus hK hfollows hn hunder (clock n)
      have hbatch := underway_batch hpay hstatus hK hpos hunder (roundSlots K.rounds n, clock n)
        fun m hm => ?_
      · rw [playCalls, hcall, hreported, slotsBefore_succ, List.map_append]
        exact ⟨rfl, hbatch⟩
      · -- The next round is not reported yet, and its seats are filled.
        rcases mem_roundSlots.mp hm with ⟨hround, hj⟩
        refine ⟨⟨by omega, by rw [hround]; exact hj⟩, fun h => ?_, fun r hr => ?_⟩
        · have hlt := (mem_slotsBefore.mp h).1
          omega
        · rw [seatsFilled_slotsBefore, decide_eq_true_eq]
          omega

end Perfect

section PowerOfTwo

variable {s : Db} {x : Tournament} {hex : BracketHex} {ids : List String} {choice : Choice}

/-- The knockout in which the chosen players win. -/
def choiceKnockout (k : Nat) (ids : List String) (hlength : ids.length = 2 ^ k)
    (hids : ids.Nodup) (hex : BracketHex) (choice : Choice) : Knockout String :=
  bracketKnockout k ids hlength hids fun r j a b => choice
    { matchId := slotId hex r j
      player1Id := some a
      player2Id := some b
      winnerId := none
      status := .pending }

/-- A power of two players are played to their champion. -/
theorem trueChampion_of_powerOfTwo (hplay : InPlay s x hex ids) {k : Nat} (hk : 1 ≤ k)
    (hlength : ids.length = 2 ^ k) (choice : Choice) (clock : Nat → Int) :
    TrueChampion s x.tournamentId ids choice clock := by
  have hfollows : Follows (choiceKnockout k ids hlength hplay.different hex choice) hex choice :=
    fun _ _ _ _ => rfl
  have hK : Named (choiceKnockout k ids hlength hplay.different hex choice) :=
    bracketKnockout_named hlength hplay.different _ hplay.named
  have hstart := inPlay_underway hplay hlength (fun r j a b => choice
    { matchId := slotId hex r j
      player1Id := some a
      player2Id := some b
      winnerId := none
      status := .pending })
  have hplayed := fun n (hn : n ≤ k) =>
    playCalls_played hplay.toPayable hplay.status hK hk hfollows clock hstart hn
  -- The last round is the final.
  rcases hplayed k (le_refl k) with ⟨hreported, hstore⟩
  have hfinished : Finished s x (choiceKnockout k ids hlength hplay.different hex choice) hex
      (slotsBefore k k) (playCalls choice clock x.tournamentId s k).2 := by
    refine hstore.resolve_left fun hunder => hunder.final ?_
    exact mem_slotsBefore.mpr ⟨Nat.sub_lt hk Nat.zero_lt_one, Nat.two_pow_pos _⟩
  have hplaced := finished_placedByRounds hk hplay.registered hfinished
  rcases hfinished.completed with ⟨y, -, hrow, hcompleted, -⟩
  have hbeaten : (playCalls choice clock x.tournamentId s k).1.map (beaten choice) =
      (slotsBefore k k).map fun m =>
        (choiceKnockout k ids hlength hplay.different hex choice).loser m.1 m.2 := by
    rw [hreported, List.map_map]
    exact List.map_congr_left fun m _ => (winnerOf_dueMatch hfollows m).2
  have hslots : ∀ m ∈ slotsBefore k k, IsSlot k m.1 m.2 := fun m hm => mem_slotsBefore.mp hm
  have hnodup : ((slotsBefore k k).map fun m =>
      (choiceKnockout k ids hlength hplay.different hex choice).loser m.1 m.2).Nodup := by
    refine List.Nodup.map_on (fun m hm m' hm' h => ?_) (slotsBefore_nodup k k)
    have hsame := Knockout.loser_inj _ (hslots m hm) (hslots m' hm') h
    exact Prod.ext hsame.1 hsame.2
  refine ⟨⟨k, y, (choiceKnockout k ids hlength hplay.different hex choice).champion, hrow,
    hcompleted, ?_, champion_mem_ids hlength hplay.different _, fun id hid => ⟨fun h => ?_,
      fun h => ?_⟩, ?_, fun id hid hne => ?_⟩, fun n bracket hopen => ?_⟩
  · have hcount := length_slotsBefore (le_refl k)
    rw [Nat.sub_self, Nat.pow_zero] at hcount
    rw [hreported, List.length_map, hlength]
    exact hcount
  · exact hplaced.only id hid h
  · rw [h]
    exact hplaced.champion
  · rw [hbeaten, List.count_eq_zero]
    intro hmem
    rcases List.mem_map.mp hmem with ⟨m, hm, h⟩
    exact Knockout.champion_ne_loser _ (hslots m hm) h.symm
  · rw [hbeaten]
    refine List.count_eq_one_of_mem hnodup ?_
    rcases champion_or_loser_of_mem hlength hplay.different _ hid with h | ⟨r, j, hslot, h⟩
    · exact absurd h hne
    · exact List.mem_map.mpr ⟨(r, j), mem_slotsBefore.mpr hslot, h.symm⟩
  · by_cases hn : n < k
    · rcases hplayed n (Nat.le_of_lt hn) with ⟨-, hunder | hover⟩
      · have hsheet := openBracket_some hunder.row hplay.status rfl
        obtain rfl : _ = bracket := Option.some.inj (hsheet.symm.trans hopen)
        rw [playable_progress hK hn]
        intro hnil
        have hlen := congrArg List.length hnil
        have hpow := Nat.two_pow_pos (k - 1 - n)
        have hsize : (roundSlots k n).length = 2 ^ (k - 1 - n) := by simp [roundSlots]
        rw [List.length_map, List.length_nil] at hlen
        have hzero : (roundSlots k n).length = 0 := hlen
        omega
      · have hlast := (mem_slotsBefore.mp hover.final).1
        have hlast' : k - 1 < n := hlast
        omega
    · have hclosed := openBracket_none hrow hcompleted
      obtain ⟨m, rfl⟩ : ∃ m, n = k + m := ⟨n - k, by omega⟩
      rw [playCalls_closed hclosed, hclosed] at hopen
      cases hopen

end PowerOfTwo

/-! ### Any other number of players -/

section Imperfect

variable {ids : List String} {hex : BracketHex} {choice : Choice}

/-- Only the first round of a new bracket has matches with two players, those
    of the players seated side by side. -/
theorem generated_playable (hnamed : ∀ id ∈ ids, id ≠ "") {r j : Nat} :
    ((generatedSheet hex ids).matchOf r j).playable = true ↔ r = 0 ∧ 2 * j + 1 < ids.length := by
  have hplayable : ((generatedSheet hex ids).matchOf r j).playable =
      (truthy (seated ids r (2 * j)) && truthy (seated ids r (2 * j + 1))) := by
    unfold BracketMatch.playable Sheet.matchOf Cell.toMatch generatedSheet generatedCell
    cases h1 : truthy (seated ids r (2 * j)) <;> cases h2 : truthy (seated ids r (2 * j + 1)) <;>
      simp [newBracketMatch, h1, h2]
  rw [hplayable, Bool.and_eq_true]
  cases r with
  | zero =>
      have htruthy : ∀ i, truthy (seated ids 0 i) = true ↔ i < ids.length := by
        intro i
        unfold seated
        constructor
        · intro h
          by_contra hout
          rw [List.getElem?_eq_none (by omega), truthy_none] at h
          cases h
        · intro hi
          rw [List.getElem?_eq_getElem hi, truthy_some]
          exact hnamed _ (List.getElem_mem hi)
      rw [htruthy, htruthy]
      omega
  | succ r =>
      rw [seated_succ hnamed, seated_succ hnamed]
      constructor
      · -- One player cannot sit in two seats.
        intro h
        by_cases hleft : ids.length % 2 = 1 ∧ 2 * j = ids.length / 2 ^ (r + 1)
        · have hright : ¬(ids.length % 2 = 1 ∧ 2 * j + 1 = ids.length / 2 ^ (r + 1)) := by
            rw [← hleft.2]
            omega
          rw [if_neg hright] at h
          exact absurd h.2 Bool.false_ne_true
        · rw [if_neg hleft] at h
          exact absurd h.1 Bool.false_ne_true
      · intro h
        cases h.1

/-- Every result of the first call is about one of these matches, and names a
    winner. -/
theorem playResults_generated (hnamed : ∀ id ∈ ids, id ≠ "") {result : BracketResult}
    (h : result ∈ playResults choice (generatedSheet hex ids).toBracket) :
    (∃ j, 2 * j + 1 < ids.length ∧ result.matchId = slotId hex 0 j) ∧
      truthy (some result.winnerId) = true := by
  -- A result is reported for a playable match, which is one of round 0.
  rcases List.mem_map.mp h with ⟨m, hm, rfl⟩
  rcases List.mem_flatMap.mp hm with ⟨round, hround, hfilter⟩
  rcases List.mem_filter.mp hfilter with ⟨hmem, hplayable⟩
  rcases List.mem_map.mp hround with ⟨r, -, rfl⟩
  rcases List.mem_map.mp hmem with ⟨j, -, rfl⟩
  rcases (generated_playable hnamed).mp hplayable with ⟨rfl, hj⟩
  refine ⟨⟨j, hj, rfl⟩, ?_⟩
  unfold BracketMatch.playable at hplayable
  rw [Bool.and_eq_true, Bool.and_eq_true] at hplayable
  -- Its winner is one of the two players seated there.
  have hsome : ∀ o : Option String, truthy o = true → truthy (some (o.getD "")) = true := by
    intro o ho
    cases o with
    | none => exact nomatch ho
    | some text => exact ho
  unfold winnerOf
  by_cases hc : choice ((generatedSheet hex ids).matchOf 0 j) = true
  · rw [if_pos hc]
    exact hsome _ hplayable.1.1
  · rw [if_neg hc]
    exact hsome _ hplayable.1.2

/-- A new bracket after all results that can be reported at first. -/
def firstReported (choice : Choice) (hex : BracketHex) (ids : List String) : Sheet :=
  (generatedSheet hex ids).recordAll (playResults choice (generatedSheet hex ids).toBracket)

@[simp] theorem firstReported_rounds :
    (firstReported choice hex ids).rounds = numRounds ids.length := by
  unfold firstReported
  rw [Sheet.recordAll_rounds]
  rfl

/-- The first call leaves all other matches as they were built. -/
theorem firstReported_cell (hnamed : ∀ id ∈ ids, id ≠ "") {r j : Nat}
    (h : ¬(r = 0 ∧ 2 * j + 1 < ids.length)) :
    (firstReported choice hex ids).cell r j = generatedCell ids r j := by
  refine Sheet.recordAll_of_forall_ne _ fun result hresult hsame => h ?_
  rcases (playResults_generated hnamed hresult).1 with ⟨j', hj', hid⟩
  rcases slotId_inj (hsame.symm.trans hid) with ⟨hr, rfl⟩
  exact ⟨hr, hj'⟩

/-- The matches that could be played have winners after the first call. -/
theorem firstReported_winner (hnamed : ∀ id ∈ ids, id ≠ "") {j : Nat}
    (hslot : IsSlot (numRounds ids.length) 0 j) (hin : 2 * j + 1 < ids.length) :
    truthy ((firstReported choice hex ids).matchOf 0 j).winnerId = true := by
  -- The match could be played, so the call has a result for it.
  have hmem : (generatedSheet hex ids).matchOf 0 j ∈
      (generatedSheet hex ids).toBracket.playable := by
    refine List.mem_flatMap.mpr ⟨(generatedSheet hex ids).round 0, ?_, List.mem_filter.mpr ⟨?_, ?_⟩⟩
    · exact List.mem_map.mpr ⟨0, List.mem_range.mpr hslot.1, rfl⟩
    · exact List.mem_map.mpr ⟨j, List.mem_range.mpr hslot.2, rfl⟩
    · exact (generated_playable hnamed).mpr ⟨rfl, hin⟩
  have hwinner : ((firstReported choice hex ids).matchOf 0 j).winnerId =
      winnerAfter (playResults choice (generatedSheet hex ids).toBracket)
        ((generatedSheet hex ids).matchOf 0 j) := by
    rw [← recordAll_winnerId]
    rfl
  -- The last result for it decides, and it names a winner.
  have hfound : ((playResults choice (generatedSheet hex ids).toBracket).reverse.find?
      fun result => result.matchId = ((generatedSheet hex ids).matchOf 0 j).matchId).isSome := by
    rw [List.find?_isSome]
    refine ⟨_, List.mem_reverse.mpr (List.mem_map_of_mem hmem), ?_⟩
    exact decide_eq_true rfl
  rcases Option.isSome_iff_exists.mp hfound with ⟨result, hresult⟩
  have hname := (playResults_generated hnamed
    (List.mem_reverse.mp (List.mem_of_find?_eq_some hresult))).2
  rw [hwinner]
  unfold winnerAfter reported
  rw [hresult]
  exact hname

/-- No more than half of the players can be reported as winners at first. -/
theorem length_playable_generated (hex : BracketHex) (hnamed : ∀ id ∈ ids, id ≠ "")
    (hpos : 0 < numRounds ids.length) :
    (generatedSheet hex ids).toBracket.playable.length ≤ ids.length / 2 := by
  rw [playable_toBracket (r := 0) hpos fun q j hslot hne => by
    rw [Bool.eq_false_iff, ne_eq, generated_playable hnamed]
    exact fun h => hne h.1]
  unfold Sheet.round
  rw [List.filter_map, List.length_map, ← List.length_range (n := ids.length / 2)]
  refine (List.subperm_of_subset (List.nodup_range.filter _) fun j hj => ?_).length_le
  rw [List.mem_filter] at hj
  have hin := ((generated_playable hnamed).mp hj.2).2
  rw [List.mem_range]
  omega

/-- Between two powers of two the last round has the last player in its second
    seat. -/
theorem numRounds_between {n : Nat} (hn : 2 ≤ n) (hpow : ∀ k, n ≠ 2 ^ k) :
    ∃ r, numRounds n = r + 2 ∧ n / 2 ^ (r + 1) = 1 ∧ n < 2 ^ numRounds n := by
  have hle := le_two_pow_numRounds n
  have hlt : n < 2 ^ numRounds n := Nat.lt_of_le_of_ne hle (hpow _)
  have hlow : 2 ^ (numRounds n).pred < n := Nat.pow_pred_clog_lt_self (by omega) (by omega)
  -- A single round is for two players, which is a power of two.
  obtain ⟨r, hr⟩ : ∃ r, numRounds n = r + 2 := by
    refine ⟨numRounds n - 2, ?_⟩
    by_contra hsmall
    have hone : numRounds n = 0 ∨ numRounds n = 1 := by omega
    rcases hone with h | h
    · rw [h] at hlt
      omega
    · rw [h] at hlt
      omega
  refine ⟨r, hr, ?_, hlt⟩
  rw [hr] at hlt hlow
  have hpred : (r + 2).pred = r + 1 := rfl
  have hdouble : 2 ^ (r + 2) = 2 * 2 ^ (r + 1) := by
    rw [Nat.pow_succ, Nat.mul_comm]
  rw [hpred] at hlow
  rw [Nat.div_eq_iff (Nat.two_pow_pos _)]
  omega

variable {s : Db} {x : Tournament}

theorem openBracket_inPlay (hplay : InPlay s x hex ids) :
    s.openBracket x.tournamentId = some (generatedSheet hex ids).toBracket := by
  have hbracket := hplay.bracket
  rw [generate_eq] at hbracket
  exact openBracket_some hplay.row hplay.status hbracket

theorem playCalls_one (hplay : InPlay s x hex ids) (clock : Nat → Int) :
    playCalls choice clock x.tournamentId s 1 =
      ((generatedSheet hex ids).toBracket.playable, ((advanceRound
        { tournamentId := x.tournamentId
          results := playResults choice (generatedSheet hex ids).toBracket
          now := clock 0 }).eval s).2) := by
  rw [playCalls, playCalls, playCall, openBracket_inPlay hplay]
  rfl

/-- With an odd number of players the last one is given the final when the
    bracket is built, and the first call completes the tournament. -/
theorem oddBracket_completes (hplay : InPlay s x hex ids) (htwo : 2 ≤ ids.length)
    (hpow : ∀ k, ids.length ≠ 2 ^ k) (hodd : ids.length % 2 = 1)
    (choice : Choice) (clock : Nat → Int) :
    (playCalls choice clock x.tournamentId s 1).2.openBracket x.tournamentId = none := by
  rcases numRounds_between htwo hpow with ⟨r, hrounds, hquot, -⟩
  have hbracket := hplay.bracket
  rw [generate_eq] at hbracket
  -- The last player has no opponent in any round, so the final is decided by a bye.
  have hfinal : finalDecided (recordResults (generatedSheet hex ids).toBracket
      (playResults choice (generatedSheet hex ids).toBracket)) = true := by
    have hsize : (firstReported choice hex ids).rounds = r + 2 :=
      firstReported_rounds.trans hrounds
    have hlater : ¬(r + 1 = 0 ∧ 2 * 0 + 1 < ids.length) := fun h => nomatch h.1
    have hlast : truthy ids[ids.length - 1]? = true := by
      rw [List.getElem?_eq_getElem (by omega), truthy_some]
      exact hplay.named _ (List.getElem_mem _)
    have hsub : r + 2 - 1 = r + 1 := rfl
    rw [recordResults_eq, ← firstReported, finalDecided_eq, hsize, hsub,
      firstReported_cell hplay.named hlater]
    unfold generatedCell
    rw [seated_succ hplay.named, seated_succ hplay.named, hquot, if_neg (by omega),
      if_pos ⟨hodd, rfl⟩]
    simp only [bye_second truthy_none hlast, hlast]
    rfl
  have hends := advanceRound_completes
    { tournamentId := x.tournamentId
      results := playResults choice (generatedSheet hex ids).toBracket
      now := clock 0 } hplay.toPayable hplay.row hplay.status hbracket hfinal
  rw [playCalls_one hplay]
  exact openBracket_none hends.1 rfl

/-- With an even number of players nobody has a seat beyond the first round,
    when the bracket is built or when its first results are in. -/
theorem firstReported_later (hnamed : ∀ id ∈ ids, id ≠ "") (heven : ids.length % 2 = 0)
    (r j : Nat) : (firstReported choice hex ids).cell (r + 1) j = ⟨none, none, none, .pending⟩ := by
  have hnot : ¬(r + 1 = 0 ∧ 2 * j + 1 < ids.length) := fun h => absurd h.1 (Nat.succ_ne_zero r)
  have hempty : ∀ i, seated ids (r + 1) i = none := by
    intro i
    rw [seated_succ hnamed, if_neg (by omega)]
  rw [firstReported_cell hnamed hnot]
  unfold generatedCell
  rw [hempty, hempty]
  rfl

/-- A first match beyond the last two players stays without its second player. -/
theorem firstReported_vacant (hnamed : ∀ id ∈ ids, id ≠ "") {j : Nat}
    (hout : ids.length ≤ 2 * j + 1) :
    ((firstReported choice hex ids).cell 0 j).player2Id = none := by
  rw [firstReported_cell hnamed (by omega)]
  unfold generatedCell seated
  rw [List.getElem?_eq_none (i := 2 * j + 1) hout]
  rfl

/-- A first match beyond all players stays without a winner. -/
theorem firstReported_undecided (hnamed : ∀ id ∈ ids, id ≠ "") {j : Nat}
    (hout : ids.length ≤ 2 * j) :
    ((firstReported choice hex ids).cell 0 j).winnerId = none := by
  rw [firstReported_cell hnamed (by omega)]
  unfold generatedCell seated
  rw [List.getElem?_eq_none hout, List.getElem?_eq_none (i := 2 * j + 1) (by omega)]
  rfl

/-- No round of an even bracket is complete: the last match of the first round
    has no players, and the later rounds have nobody. -/
theorem firstReported_incomplete (hnamed : ∀ id ∈ ids, id ≠ "") (htwo : 2 ≤ ids.length)
    (hpow : ∀ k, ids.length ≠ 2 ^ k) (heven : ids.length % 2 = 0) (r : Nat) :
    (firstReported choice hex ids).complete r = false := by
  rcases numRounds_between htwo hpow with ⟨n, hrounds, -, hlt⟩
  rw [Bool.eq_false_iff, ne_eq, Sheet.complete_iff]
  intro h
  cases r with
  | succ r =>
      have hwinner := h 0 (Nat.two_pow_pos _)
      rw [firstReported_later hnamed heven] at hwinner
      cases hwinner
  | zero =>
      -- The last slot of round 0 is past the end of the list.
      have hdouble : 2 ^ (n + 2) = 2 * 2 ^ (n + 1) := by
        rw [Nat.pow_succ, Nat.mul_comm]
      rw [hrounds] at hlt
      have hwinner := h (2 ^ (n + 1) - 1) (by
        rw [firstReported_rounds, hrounds]
        exact Nat.sub_lt (Nat.two_pow_pos _) Nat.zero_lt_one)
      rw [firstReported_undecided hnamed (by omega)] at hwinner
      cases hwinner

/-- An even bracket that is not a single match has an open final. -/
theorem firstReported_open (hnamed : ∀ id ∈ ids, id ≠ "") (htwo : 2 ≤ ids.length)
    (hpow : ∀ k, ids.length ≠ 2 ^ k) (heven : ids.length % 2 = 0) :
    finalDecided (firstReported choice hex ids).toBracket = false := by
  rcases numRounds_between htwo hpow with ⟨n, hrounds, -, -⟩
  have hsub : n + 2 - 1 = n + 1 := rfl
  rw [finalDecided_eq, firstReported_rounds, hrounds, hsub, firstReported_later hnamed heven,
    truthy_none, Bool.and_false]

/-- Nothing of an even bracket can be played after the first results: a first
    match has its winner or lacks a player, and the later rounds have nobody. -/
theorem firstReported_unplayable (hnamed : ∀ id ∈ ids, id ≠ "") (htwo : 2 ≤ ids.length)
    (hpow : ∀ k, ids.length ≠ 2 ^ k) (heven : ids.length % 2 = 0) :
    (firstReported choice hex ids).toBracket.playable = [] := by
  have hpos : 0 < numRounds ids.length := by
    rcases numRounds_between htwo hpow with ⟨n, hrounds, -, -⟩
    omega
  have hsize : (firstReported choice hex ids).rounds = numRounds ids.length := firstReported_rounds
  rw [playable_toBracket (r := 0) (by omega) fun q j hslot hne => ?_, List.filter_eq_nil_iff]
  · intro m hm
    rcases List.mem_map.mp hm with ⟨j, hj, rfl⟩
    rw [Bool.not_eq_true]
    by_cases hin : 2 * j + 1 < ids.length
    · -- The match was played, so it has its winner.
      have hslot : IsSlot (numRounds ids.length) 0 j := by
        refine ⟨hpos, ?_⟩
        rw [List.mem_range, hsize] at hj
        exact hj
      have hwinner : truthy ((firstReported choice hex ids).matchOf 0 j).winnerId = true :=
        firstReported_winner hnamed hslot hin
      simp [BracketMatch.playable, hwinner]
    · -- Nobody is seated second.
      have hseat : ((firstReported choice hex ids).matchOf 0 j).player2Id = none :=
        firstReported_vacant hnamed (by omega)
      simp [BracketMatch.playable, hseat]
  · obtain ⟨q, rfl⟩ : ∃ p, q = p + 1 := ⟨q - 1, by omega⟩
    have hnobody : (firstReported choice hex ids).cell (q + 1) j = ⟨none, none, none, .pending⟩ :=
      firstReported_later hnamed heven q j
    simp [BracketMatch.playable, Sheet.matchOf, Cell.toMatch, hnobody]

/-- With an even number of players that is not a power of two, the first round
    has a match without players, which is never won. After the first call
    nothing can be played. -/
theorem evenBracket_stuck (hplay : InPlay s x hex ids) (htwo : 2 ≤ ids.length)
    (hpow : ∀ k, ids.length ≠ 2 ^ k) (heven : ids.length % 2 = 0)
    (choice : Choice) (clock : Nat → Int) :
    ∃ bracket, (playCalls choice clock x.tournamentId s 1).2.openBracket x.tournamentId =
      some bracket ∧ bracket.playable = [] := by
  have hbracket := hplay.bracket
  rw [generate_eq] at hbracket
  have hopen : finalDecided (recordResults (generatedSheet hex ids).toBracket
      (playResults choice (generatedSheet hex ids).toBracket)) = false := by
    rw [recordResults_eq]
    exact firstReported_open hplay.named htwo hpow heven
  have hmoves := advanceRound_moves
    { tournamentId := x.tournamentId
      results := playResults choice (generatedSheet hex ids).toBracket
      now := clock 0 } hplay.row hplay.status hbracket hopen
  -- No round is complete, so nobody is moved on.
  have hadvanced : advancedTournament x (recordResults (generatedSheet hex ids).toBracket
      (playResults choice (generatedSheet hex ids).toBracket)) =
        { x with bracket := some (firstReported choice hex ids).toBracket } := by
    unfold advancedTournament
    rw [recordResults_eq, ← firstReported, advanceWinners_eq]
    have hsame : (firstReported choice hex ids).advance.toBracket =
        (firstReported choice hex ids).toBracket :=
      Sheet.toBracket_congr rfl rfl fun q j _ => (firstReported choice hex ids).advance_stays
        (fun _ => firstReported_incomplete hplay.named htwo hpow heven _) j
    rw [hsame]
  refine ⟨(firstReported choice hex ids).toBracket, ?_,
    firstReported_unplayable hplay.named htwo hpow heven⟩
  rw [playCalls_one hplay, hmoves, hadvanced]
  exact openBracket_some (x := { x with bracket := some (firstReported choice hex ids).toBracket })
    (Table.findOne_save_self s.tournaments
      { x with bracket := some (firstReported choice hex ids).toBracket })
    hplay.status rfl

/-- A tournament in play finds its champion, whatever is chosen, if and only if
    the number of its players is a power of two. -/
theorem trueChampion_iff (hplay : InPlay s x hex ids) (htwo : 2 ≤ ids.length) (choice : Choice)
    (clock : Nat → Int) :
    TrueChampion s x.tournamentId ids choice clock ↔ ∃ k, ids.length = 2 ^ k := by
  constructor
  · intro htrue
    by_contra hnot
    have hpow : ∀ k, ids.length ≠ 2 ^ k := fun k h => hnot ⟨k, h⟩
    rcases Nat.mod_two_eq_zero_or_one ids.length with heven | hodd
    · -- Some matches can never be played.
      rcases evenBracket_stuck hplay htwo hpow heven choice clock with ⟨bracket, hopen, hnil⟩
      exact htrue.goesOn 1 bracket hopen hnil
    · -- The tournament is over too early: one call plays fewer matches than a
      -- champion has to win.
      have hclosed := oddBracket_completes hplay htwo hpow hodd choice clock
      rcases numRounds_between htwo hpow with ⟨r, hrounds, -, -⟩
      rcases htrue.ends with ⟨n, y, -, hrow, hstatus, hcount, -⟩
      cases n with
      | zero =>
          have hsame := Option.some.inj (hrow.symm.trans hplay.row)
          rw [hsame, hplay.status] at hstatus
          exact nomatch hstatus
      | succ n =>
          have hfew := length_playable_generated hex hplay.named (by omega)
          rw [Nat.add_comm n 1, playCalls_closed hclosed, playCalls_one hplay] at hcount
          simp only at hcount
          have hthree := hpow 1
          omega
  · intro h
    rcases h with ⟨k, hlength⟩
    refine trueChampion_of_powerOfTwo hplay ?_ hlength choice clock
    by_contra hzero
    obtain rfl : k = 0 := by omega
    rw [hlength] at htwo
    omega

end Imperfect

/-- Four players are played to their champion. -/
theorem trueChampion_iff_four :
    TrueChampion (startedTournament ["a", "b", "c", "d"]) "t" ["a", "b", "c", "d"]
      (fun _ => true) fun _ => 0 := by
  have hplay : ∃ x, x.tournamentId = "t" ∧
      InPlay (startedTournament ["a", "b", "c", "d"]) x (fun _ _ => "m") ["a", "b", "c", "d"] :=
    inPlay_of_playFacts 4000000 (by decide) (by decide +kernel) (by decide) (by decide)
      (by decide +kernel)
  rcases hplay with ⟨x, hkey, hx⟩
  have hends := (trueChampion_iff hx (by decide) (fun _ => true) fun _ => 0).mpr ⟨2, rfl⟩
  rwa [hkey] at hends

/-- Three players, and the tournament is over after the first match. -/
theorem not_trueChampion_three :
    ¬TrueChampion (startedTournament ["a", "b", "c"]) "t" ["a", "b", "c"] (fun _ => true)
      fun _ => 0 := by
  intro htrue
  -- One call reports one match and closes the bracket, where two are needed.
  have hclosed : (playCalls (fun _ => true) (fun _ => 0) "t" (startedTournament ["a", "b", "c"])
      1).2.openBracket "t" = none := by
    decide +kernel
  have hone : (playCalls (fun _ => true) (fun _ => 0) "t" (startedTournament ["a", "b", "c"])
      1).1.length = 1 := by
    decide +kernel
  rcases htrue.ends with ⟨n, y, -, hrow, hstatus, hcount, -⟩
  cases n with
  | zero =>
      have hopen : ((startedTournament ["a", "b", "c"]).tournaments.findOne "t").map
          Tournament.status = some .IN_PROGRESS := by
        decide +kernel
      have hrow' : (startedTournament ["a", "b", "c"]).tournaments.findOne "t" = some y := hrow
      rw [hrow', Option.map_some, hstatus] at hopen
      exact nomatch hopen
  | succ n =>
      rw [Nat.add_comm n 1, playCalls_closed hclosed, hone] at hcount
      exact nomatch hcount

end Esports

end SvmCourse
