import SvmCourse.Esports.Rounds

/-!
# Placements of Any Bracket

The placements the service reads off a bracket, whatever was reported. The
loser of the final is second, its winner first, and everybody else is placed by
the last round with a decided match that he lost. The places are one and the
powers of two, so nobody is ever third.

A bracket has one final when its last round is a single match, as in every
bracket that the service builds.

## Main definitions

* `BracketMatch.loses`: The match is decided against the player.
* `Bracket.placeOf`: The placement of a player.

## Theorems

* `finalPlacements_eq`: The placements of a bracket with one final.
-/

namespace SvmCourse

namespace Esports

open Core

/-- The match is decided and the player lost it. -/
def BracketMatch.loses (m : BracketMatch) (id : String) : Bool :=
  truthy m.winnerId && loserId m = some id && id != ""

/-- The match is decided and the player won it. -/
def BracketMatch.wins (m : BracketMatch) (id : String) : Bool :=
  m.winnerId = some id && id != ""

/-- The player loses a match of the round. -/
def BracketRound.loses (round : BracketRound) (id : String) : Bool :=
  round.matchList.any fun m => m.loses id

/-- The final decides over the first two places. Others are placed by the last
    round they lost, counted from the final. -/
def Bracket.placeOf (bracket : Bracket) (id : String) : Option ℚ :=
  if (finalMatch bracket).any fun m => m.loses id then some 2
  else if (finalMatch bracket).any fun m => m.wins id then some 1
  else (bracket.rounds.reverse.findIdx? fun round => round.loses id).map fun fromLast =>
    2 ^ (fromLast + 1)

/-- The last round is a single match. -/
def Bracket.OneFinal (bracket : Bracket) : Prop :=
  ∃ m, (bracket.rounds.getLast?.map BracketRound.matchList) = some [m]

/-- The placement of a player so far. -/
def Placements.of (placements : Placements) (id : String) : Option ℚ :=
  (placements.findOne id).map Prod.snd

theorem of_save (placements : Placements) (id id' : String) (place : ℚ) :
    Placements.of (placements.save (id, place)) id' =
      if id' = id then some place else placements.of id' :=
  findOne_savePlacement placements id id' place

/-- A match that was lost by somebody else, or by nobody. -/
theorem loses_of_ne {m : BracketMatch} {id : String} (h : loserId m ≠ some id) :
    m.loses id = false := by
  simp [BracketMatch.loses, h]

theorem placeLoser_eq {m : BracketMatch} {loser : String} (h : loserId m = some loser) (base : ℚ)
    (placements : Placements) : placeLoser base placements m =
      if m.loses loser && (placements.of loser).isNone then placements.save (loser, base)
      else placements := by
  have htruthy : truthy (some loser) = (loser != "") := rfl
  have hof : (placements.of loser).isNone = (placements.findOne loser).isNone := Option.isNone_map
  unfold placeLoser BracketMatch.loses
  simp only [h, htruthy, hof, decide_true, Bool.and_true]

/-- An earlier match places its loser and nobody else, unless he is placed
    already. -/
theorem of_placeLoser (base : ℚ) (placements : Placements) (m : BracketMatch) (id : String) :
    Placements.of (placeLoser base placements m) id =
      (placements.of id).or (if m.loses id then some base else none) := by
  cases hloser : loserId m with
  | none =>
      rw [loses_of_ne (by simp [hloser])]
      simp [placeLoser, hloser]
  | some loser =>
      rw [placeLoser_eq hloser]
      -- Only the loser can get a place here.
      by_cases hid : id = loser
      · rw [hid]
        cases hplaced : placements.of loser with
        | some place => simp [hplaced]
        | none =>
            cases m.loses loser with
            | true => simp [of_save]
            | false => simp [hplaced]
      · have hnot : m.loses id = false := loses_of_ne (by rw [hloser]; simpa [eq_comm] using hid)
        rw [hnot]
        split
        · simp [of_save, hid]
        · simp

/-- A whole round places everybody who lost in it and is not placed yet. -/
theorem of_placeRound (base : ℚ) (ms : List BracketMatch) (placements : Placements) (id : String) :
    Placements.of (ms.foldl (placeLoser base) placements) id =
      (placements.of id).or (if ms.any fun m => m.loses id then some base else none) := by
  induction ms generalizing placements with
  | nil => simp
  | cons m ms ih =>
      rw [List.foldl_cons, ih, of_placeLoser, List.any_cons]
      cases placements.of id with
      | some place => rfl
      | none => cases m.loses id <;> simp

/-- The rounds before the final place everybody by the last one he lost. -/
theorem of_placeRounds (earlier : List BracketRound) (fromLast : Nat) (hpos : 0 < fromLast)
    (placements : Placements) (id : String) :
    Placements.of (placeRounds placements fromLast earlier) id =
      (placements.of id).or ((earlier.findIdx? fun round => round.loses id).map fun i =>
        2 ^ (fromLast + i + 1)) := by
  -- On the rounds, from the last one back: the base doubles with each.
  induction earlier generalizing placements fromLast with
  | nil => simp [placeRounds]
  | cons round earlier ih =>
      have hnot : ¬fromLast = 0 := by omega
      rw [placeRounds]
      simp only [hnot, if_false]
      rw [ih (fromLast + 1) (by omega), of_placeRound, List.findIdx?_cons]
      have hloses : (round.matchList.any fun m => m.loses id) = round.loses id := rfl
      rw [hloses]
      cases placements.of id with
      | some place => rfl
      | none =>
          cases round.loses id with
          | true => simp
          | false =>
              simp only [Option.or_none, Option.none_or, Bool.false_eq_true, if_false,
                Option.map_map]
              congr 1
              funext i
              rw [Function.comp_apply]
              congr 1
              omega

/-- The final places its winner first, and then its loser second. -/
theorem placeFinal_eq (m : BracketMatch) : placeFinal Table.empty m =
    match m.winnerId, loserId m with
    | some winner, some loser =>
      if m.wins winner then
        if m.loses loser then (Table.empty.save (winner, 1)).save (loser, 2)
        else Table.empty.save (winner, 1)
      else Table.empty
    | some winner, none => if m.wins winner then Table.empty.save (winner, 1) else Table.empty
    | none, _ => Table.empty := by
  have htruthy : ∀ text, truthy (some text) = (text != "") := fun _ => rfl
  unfold placeFinal BracketMatch.wins BracketMatch.loses
  cases hwinner : m.winnerId with
  | none => rfl
  | some winner =>
      cases loserId m with
      | none => simp [htruthy]
      | some loser => by_cases hnamed : winner = "" <;> simp [htruthy, hnamed]

theorem of_placeFinal (m : BracketMatch) (id : String) :
    Placements.of (placeFinal Table.empty m) id =
      if m.loses id then some 2 else if m.wins id then some 1 else none := by
  have hempty : Placements.of Table.empty id = none := rfl
  have hwins : ∀ winner, m.winnerId = some winner → m.wins id = true → id = winner := by
    intro winner hwinner hid
    unfold BracketMatch.wins at hid
    rw [hwinner, Bool.and_eq_true, decide_eq_true_eq] at hid
    exact (Option.some.inj hid.1).symm
  have hloses : ∀ loser, loserId m = some loser → m.loses id = true → id = loser := by
    intro loser hloser hid
    by_contra hne
    rw [loses_of_ne (by rw [hloser]; simpa [eq_comm] using hne)] at hid
    cases hid
  rw [placeFinal_eq]
  cases hwinner : m.winnerId with
  | none =>
      have hlost : m.loses id = false := by simp [BracketMatch.loses, hwinner, truthy]
      have hwon : m.wins id = false := by simp [BracketMatch.wins, hwinner]
      simp [hlost, hwon, hempty]
  | some winner =>
      -- A final without a named winner is not decided against anybody.
      have hdecided : m.wins winner = false → m.loses id = false := by
        intro hno
        have hnamed : truthy m.winnerId = false := by
          rw [hwinner]
          simpa [BracketMatch.wins, hwinner, truthy] using hno
        simp [BracketMatch.loses, hnamed]
      have hsaved : Placements.of (Table.empty.save (winner, 1)) id =
          if id = winner then some 1 else none := of_save ..
      have hwon : m.wins winner = true → (m.wins id = true ↔ id = winner) := by
        intro hyes
        exact ⟨hwins winner hwinner, fun h => h ▸ hyes⟩
      by_cases hyes : m.wins winner = true
      · cases hloser : loserId m with
        | none =>
            have hlost : m.loses id = false := loses_of_ne (by simp [hloser])
            simp [hyes, hlost, hsaved, hwon hyes]
        | some loser =>
            by_cases hid : id = loser
            · rw [hid] at hsaved hwon ⊢
              by_cases hlost : m.loses loser = true
              · simp [hyes, hlost, of_save]
              · simp [hyes, hlost, hsaved, hwon hyes]
            · have hlost : m.loses id = false := by
                rw [Bool.eq_false_iff]
                exact fun h => hid (hloses loser hloser h)
              simp only [hyes, if_true, hlost, Bool.false_eq_true, if_false, hwon hyes]
              split
              · rw [of_save, if_neg hid, hsaved]
              · exact hsaved
      · rw [Bool.not_eq_true] at hyes
        have hnot : m.wins id = false := by
          rw [Bool.eq_false_iff]
          intro h
          rw [← hwins winner hwinner h, h] at hyes
          cases hyes
        cases loserId m with
        | none => simp [hyes, hdecided hyes, hnot, hempty]
        | some loser => simp [hyes, hdecided hyes, hnot, hempty]

/-- The placements the service reads off a bracket. -/
theorem finalPlacements_eq {bracket : Bracket} (hfinal : bracket.OneFinal) (id : String) :
    ((finalPlacements bracket).findOne id).map Prod.snd = bracket.placeOf id := by
  rcases hfinal with ⟨m, hlast⟩
  rcases Option.map_eq_some_iff.mp hlast with ⟨final, hround, hsingle⟩
  obtain ⟨earlier, hrounds⟩ := List.getLast?_eq_some_iff.mp hround
  have hmatch : finalMatch bracket = some m := by
    unfold finalMatch
    rw [hround, Option.bind_some, hsingle]
    rfl
  have hreverse : bracket.rounds.reverse = final :: earlier.reverse := by
    rw [hrounds, List.reverse_append]
    rfl
  -- The final is placed first, and then the rounds before it.
  have hstart : finalPlacements bracket =
      placeRounds (placeFinal Table.empty m) 1 earlier.reverse := by
    unfold finalPlacements
    rw [hreverse, placeRounds, hsingle]
    rfl
  have hloses : final.loses id = m.loses id := by
    unfold BracketRound.loses
    rw [hsingle]
    simp
  change Placements.of (finalPlacements bracket) id = _
  rw [hstart, of_placeRounds _ 1 Nat.one_pos, of_placeFinal]
  unfold Bracket.placeOf
  rw [hmatch, hreverse, Option.any_some, Option.any_some, List.findIdx?_cons, hloses]
  -- Its loser is second, its winner first, and the others are placed by the earlier
  -- rounds.
  by_cases hlost : m.loses id = true
  · simp [hlost]
  · by_cases hwon : m.wins id = true
    · simp [hlost, hwon]
    · simp only [hlost, hwon, Bool.false_eq_true, if_false, Option.none_or, Option.map_map]
      congr 1
      funext i
      rw [Function.comp_apply, Nat.add_comm 1 i]

end Esports

end SvmCourse
