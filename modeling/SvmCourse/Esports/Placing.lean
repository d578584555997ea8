import SvmCourse.Esports.Calm
import SvmCourse.Esports.Starting
import SvmCourse.Esports.Submitting

/-!
# Placements Before a Result

Nobody in a match that is still to be played has a placement. A placement is
only ever written together with the status of a player who has finished, and
no write makes such a player one who waits or plays again. So in every store
that calls lead to, whatever is refused, a player with a placement is done. In
a calm run the players of a match that is not over are not done.

## Main definitions

* `PlacedAreDone`: Whoever has a placement is done.
* `Unplaced`: Nobody in the match has a placement.

## Theorems

* `call_keepsDone`: Every call keeps this, whatever is refused.
* `unplaced_after`: Nobody has a placement before the match is over.
-/

namespace SvmCourse

namespace Esports

open Core Core.Prog

/-- Whoever has a placement neither waits nor plays. -/
def PlacedAreDone (participants : Table MatchParticipant.key) : Prop :=
  ∀ p ∈ participants.rows, p.placement ≠ none → p.status ≠ .JOINED ∧ p.status ≠ .PLAYING

/-- Nobody in the match has a placement yet. -/
def Unplaced (s : Db) (matchId : String) : Prop :=
  ∀ p ∈ s.participantsOf matchId, p.placement = none

/-! ### Writes -/

section Writes

variable {participants : Table MatchParticipant.key}

theorem PlacedAreDone.save (h : PlacedAreDone participants) {p : MatchParticipant}
    (hp : p.placement ≠ none → p.status ≠ .JOINED ∧ p.status ≠ .PLAYING) :
    PlacedAreDone (participants.save p) := by
  intro q hq
  rcases Table.mem_save.mp hq with rfl | ⟨hold, -⟩
  · exact hp
  · exact h q hold

end Writes

/-! ### Calls -/

section Calls

variable {α : Type}

/-- The method keeps the property. -/
abbrev KeepsDone (p : Service α) : Prop := p.Preserves fun s => PlacedAreDone s.participants

theorem keepsDone_of_frames {p : Service α} (hp : p.Frames Db.participants) : KeepsDone p :=
  preserves_of_frames hp

/-- An access that reads, or writes anything but participants. -/
theorem keepsDone_query {act : Db → α × Db}
    (h : ∀ db, (act db).2.participants = db.participants) : KeepsDone (query act) :=
  keepsDone_of_frames (frames_perform h)

theorem keepsDone_require {ok : Bool} {e : ServiceError} : KeepsDone (require ok e) :=
  keepsDone_of_frames (frames_require _ _)

/-- An update of participants, judged row by row. -/
theorem keepsDone_update {test : MatchParticipant → Bool} {f : MatchParticipant → MatchParticipant}
    {hf : ∀ p, (f p).key = p.key} (hrow : ∀ p, test p = true →
      (p.placement ≠ none → p.status ≠ .JOINED ∧ p.status ≠ .PLAYING) →
        (f p).placement ≠ none → (f p).status ≠ .JOINED ∧ (f p).status ≠ .PLAYING) :
    KeepsDone (participantRepository.update test f hf) := by
  refine preserves_perform fun s hs q hq => ?_
  have hmem : q ∈ (s.participants.update test f hf).rows := hq
  rcases Table.mem_update.mp hmem with ⟨p, hp, rfl⟩
  by_cases htest : test p = true
  · rw [if_pos htest]
    exact hrow p htest (hs p hp)
  · rw [if_neg htest]
    exact hs p hp

theorem getMatchById_keepsDone (matchId : String) : KeepsDone (getMatchById matchId) :=
  preserves_bind (keepsDone_query fun _ => rfl) fun _ => keepsDone_of_frames (frames_demand _ _)

theorem createMatch_keepsDone (request : CreateMatchRequest) : KeepsDone (createMatch request) :=
  preserves_bind keepsDone_require fun _ =>
    preserves_bind (keepsDone_of_frames (frames_compute _)) fun _ =>
      preserves_bind (keepsDone_of_frames (createEscrow_frames _)) fun _ =>
        preserves_bind (keepsDone_query fun _ => rfl) fun _ => fun _ hs => hs

/-- An entry whose own rows keep the property keeps it. -/
theorem enter_keepsDone {entry : Entry α} (h : ∀ w, KeepsDone (entry.register w)) :
    KeepsDone (enter entry) := by
  refine preserves_bind (keepsDone_of_frames (lockEntry_frames entry)) fun wallet => ?_
  refine preserves_onError ?_ fun e => keepsDone_of_frames (rollbackEntry_frames entry e)
  refine preserves_bind (keepsDone_of_frames (getEscrow_frames _ _)) fun _ => ?_
  refine preserves_bind (keepsDone_of_frames (depositToEscrow_frames _)) fun _ => ?_
  exact preserves_bind (keepsDone_of_frames (deductEntryFee_frames _ _)) fun _ => h wallet

theorem joinMatch_keepsDone (request : JoinMatchRequest) : KeepsDone (joinMatch request) := by
  refine preserves_bind ?_ fun m => enter_keepsDone fun wallet => ?_
  · refine preserves_bind (getMatchById_keepsDone _) fun _ => ?_
    refine preserves_bind keepsDone_require fun _ => ?_
    refine preserves_bind (keepsDone_query fun _ => rfl) fun _ => ?_
    exact preserves_bind keepsDone_require fun _ => fun _ hs => hs
  · -- Who joins has no placement.
    refine preserves_bind (preserves_perform fun s hs => ?_) fun _ => ?_
    · exact hs.save fun hplaced => absurd rfl hplaced
    · exact preserves_bind (keepsDone_query fun _ => rfl) fun _ => fun _ hs => hs

theorem startMatch_keepsDone (matchId : String) (now : Int) :
    KeepsDone (startMatch matchId now) := by
  refine preserves_bind (getMatchById_keepsDone _) fun m => ?_
  refine preserves_bind keepsDone_require fun _ => ?_
  refine preserves_bind (keepsDone_of_frames (getEscrow_frames _ _)) fun _ => ?_
  refine preserves_bind (keepsDone_of_frames (lockEscrow_frames _)) fun _ => ?_
  refine preserves_bind (keepsDone_update fun p htest hdone hplaced => ?_) fun _ => ?_
  · -- Whoever waits has no placement, and still has none when play begins.
    have hwaits : p.status = .JOINED := (of_decide_eq_true htest).2
    exact absurd hwaits (hdone hplaced).1
  · exact preserves_bind (keepsDone_query fun _ => rfl) fun _ => fun _ hs => hs

theorem finishParticipant_keepsDone (matchId playerId : String) (placement : Nat) :
    KeepsDone (finishParticipant matchId playerId placement) := by
  refine keepsDone_update fun p _ _ _ => ?_
  exact ⟨(fun h => nomatch h), (fun h => nomatch h)⟩

theorem markParticipant_keepsDone (matchId : String) (dist : PrizeCalculation) :
    KeepsDone (markParticipant matchId dist) :=
  keepsDone_update fun _ _ hdone => hdone

theorem creditAll_keepsDone {source : SourceId} {mark : PrizeCalculation → Service Unit}
    (hmark : ∀ dist, KeepsDone (mark dist)) (dists : List PrizeCalculation)
    (record : PrizeDistribution) (total : Int) :
    KeepsDone (creditAll source mark dists record total) := by
  intro s hs
  have hstep : ∀ dist (rest : List PrizeCalculation) t, PlacedAreDone t.participants →
      (creditOne source mark dist).Ensures True t fun _ u => PlacedAreDone u.participants := by
    intro dist rest t ht
    refine preserves_bind ?_ (fun _ => hmark dist) t ht
    exact keepsDone_of_frames (moveFunds_frames _ _ _ _ fun _ _ => rfl)
  exact ensures_mono (creditAll_ensures (J := fun _ t => PlacedAreDone t.participants) hstep dists
    record total s hs) fun _ _ hu => hu.2

theorem distribute_keepsDone {payout : Payout} (hmark : ∀ dist, KeepsDone (payout.mark dist)) :
    KeepsDone (distribute payout) := by
  have hfail : ∀ id record e, KeepsDone (failDistribution id record e) :=
    fun _ _ _ => keepsDone_query fun _ => rfl
  refine preserves_bind (keepsDone_of_frames (getEscrow_frames _ _)) fun _ => ?_
  refine preserves_bind (keepsDone_of_frames (getEscrow_frames _ _)) fun _ => ?_
  refine preserves_bind (keepsDone_of_frames (frames_compute _)) fun _ => ?_
  refine preserves_bind (keepsDone_query fun _ => rfl) fun _ => ?_
  refine preserves_bind (preserves_onError (keepsDone_of_frames (releaseEscrow_frames _))
    (hfail _ _)) fun _ => ?_
  refine preserves_bind (creditAll_keepsDone hmark _ _ _) fun _ => ?_
  refine preserves_bind (preserves_onError (keepsDone_query fun _ => rfl) (hfail _ _)) fun _ => ?_
  exact fun _ hs => hs

theorem submitResult_keepsDone (request : SubmitResultRequest) :
    KeepsDone (submitResult request) := by
  refine preserves_bind (getMatchById_keepsDone _) fun m => ?_
  refine preserves_bind keepsDone_require fun _ => ?_
  refine preserves_bind (keepsDone_query fun _ => rfl) fun _ => ?_
  refine preserves_bind (keepsDone_of_frames (frames_compute _)) fun _ => ?_
  refine preserves_bind (keepsDone_query fun _ => rfl) fun _ => ?_
  refine preserves_bind (preserves_each fun _ => finishParticipant_keepsDone _ _ _) fun _ => ?_
  refine preserves_bind (preserves_each fun _ => finishParticipant_keepsDone _ _ _) fun _ => ?_
  refine preserves_bind (distribute_keepsDone (markParticipant_keepsDone _)) fun _ => ?_
  exact preserves_bind (keepsDone_query fun _ => rfl) fun _ => fun _ hs => hs

theorem cancelMatch_keepsDone (matchId : String) (now : Int) :
    KeepsDone (cancelMatch matchId now) := by
  refine preserves_bind (getMatchById_keepsDone _) fun m => ?_
  refine preserves_bind keepsDone_require fun _ => ?_
  refine preserves_bind (keepsDone_of_frames (getEscrow_frames _ _)) fun _ => ?_
  refine preserves_bind (keepsDone_of_frames (refundEscrow_frames _)) fun _ => ?_
  refine preserves_bind (keepsDone_query fun _ => rfl) fun _ => ?_
  refine preserves_bind (preserves_each fun p => ?_) fun _ => ?_
  · refine preserves_bind (keepsDone_of_frames (unlockFunds_frames _)) fun _ => ?_
    refine preserves_perform fun s hs => hs.save fun _ => ?_
    exact ⟨(fun h => nomatch h), (fun h => nomatch h)⟩
  · exact preserves_bind (keepsDone_query fun _ => rfl) fun _ => fun _ hs => hs

/-! ### Tournaments have no participants -/

theorem getTournamentById_keepsDone (tournamentId : String) :
    KeepsDone (getTournamentById tournamentId) :=
  preserves_bind (keepsDone_query fun _ => rfl) fun _ => keepsDone_of_frames (frames_demand _ _)

/-- A method that ends by saving a tournament. -/
theorem saveTournament_keepsDone (x : Tournament) (a : α) :
    KeepsDone ((tournamentRepository.save x).bind fun _ => Prog.done a) :=
  preserves_bind (keepsDone_query fun _ => rfl) fun _ => fun _ hs => hs

theorem createTournament_keepsDone (request : CreateTournamentRequest) :
    KeepsDone (createTournament request) := by
  refine preserves_bind keepsDone_require fun _ => preserves_bind keepsDone_require fun _ => ?_
  exact preserves_bind (keepsDone_of_frames (createEscrow_frames _)) fun _ =>
    saveTournament_keepsDone _ _

theorem openRegistration_keepsDone (tournamentId : String) :
    KeepsDone (openRegistration tournamentId) :=
  preserves_bind (getTournamentById_keepsDone _) fun _ => preserves_bind keepsDone_require fun _ =>
    saveTournament_keepsDone _ _

theorem closeRegistration_keepsDone (tournamentId : String) :
    KeepsDone (closeRegistration tournamentId) :=
  preserves_bind (getTournamentById_keepsDone _) fun _ => preserves_bind keepsDone_require fun _ =>
    saveTournament_keepsDone _ _

theorem registerPlayer_keepsDone (request : RegisterPlayerRequest) :
    KeepsDone (registerPlayer request) := by
  refine preserves_bind ?_ fun x => enter_keepsDone fun wallet => ?_
  · refine preserves_bind (getTournamentById_keepsDone _) fun _ => ?_
    refine preserves_bind keepsDone_require fun _ => ?_
    refine preserves_bind (keepsDone_query fun _ => rfl) fun _ => ?_
    exact preserves_bind keepsDone_require fun _ => fun _ hs => hs
  · exact preserves_bind (keepsDone_query fun _ => rfl) fun _ => saveTournament_keepsDone _ _

theorem generateBracket_keepsDone (request : GenerateBracketRequest) :
    KeepsDone (generateBracket request) := by
  refine preserves_bind (getTournamentById_keepsDone _) fun x => ?_
  refine preserves_bind keepsDone_require fun _ => ?_
  refine preserves_bind (keepsDone_query fun _ => rfl) fun _ => ?_
  refine preserves_bind keepsDone_require fun _ => ?_
  refine preserves_bind (preserves_each fun _ => keepsDone_query fun _ => rfl) fun _ => ?_
  refine preserves_bind (keepsDone_query fun _ => rfl) fun _ => ?_
  refine preserves_bind (keepsDone_of_frames (getEscrow_frames _ _)) fun _ => ?_
  exact preserves_bind (keepsDone_of_frames (lockEscrow_frames _)) fun _ => fun _ hs => hs

theorem startTournament_keepsDone (request : StartTournamentRequest) :
    KeepsDone (startTournament request) := by
  refine preserves_bind (getTournamentById_keepsDone _) fun x => ?_
  refine preserves_bind keepsDone_require fun _ => ?_
  refine preserves_bind (preserves_each fun pairing => ?_) fun _ => saveTournament_keepsDone _ _
  unfold createPairing
  split
  · exact preserves_bind (createMatch_keepsDone _) fun _ => fun _ hs => hs
  · exact fun _ hs => hs

theorem advanceRound_keepsDone (request : AdvanceRoundRequest) :
    KeepsDone (advanceRound request) := by
  refine preserves_bind (getTournamentById_keepsDone _) fun x => ?_
  refine preserves_bind keepsDone_require fun _ => ?_
  refine preserves_bind (keepsDone_of_frames (frames_demand _ _)) fun bracket => ?_
  unfold settleRound
  -- The last round also finishes the registrations and pays, none of which is a
  -- participant.
  split
  · refine preserves_bind ?_ fun _ => saveTournament_keepsDone _ _
    refine preserves_bind (keepsDone_query fun _ => rfl) fun _ => ?_
    refine preserves_bind (preserves_each fun _ => keepsDone_query fun _ => rfl) fun _ => ?_
    refine preserves_bind (keepsDone_query fun _ => rfl) fun _ => ?_
    refine preserves_bind (distribute_keepsDone fun _ => ?_) fun _ => fun _ hs => hs
    exact keepsDone_query fun _ => rfl
  · exact saveTournament_keepsDone _ _

theorem cancelTournament_keepsDone (tournamentId : String) (now : Int) :
    KeepsDone (cancelTournament tournamentId now) := by
  refine preserves_bind (getTournamentById_keepsDone _) fun x => ?_
  refine preserves_bind keepsDone_require fun _ => ?_
  refine preserves_bind (keepsDone_of_frames (getEscrow_frames _ _)) fun _ => ?_
  refine preserves_bind (keepsDone_of_frames (refundEscrow_frames _)) fun _ => ?_
  refine preserves_bind (keepsDone_query fun _ => rfl) fun _ => ?_
  refine preserves_bind (preserves_each fun _ => ?_) fun _ => saveTournament_keepsDone _ _
  exact preserves_bind (keepsDone_of_frames (unlockFunds_frames _)) fun _ =>
    keepsDone_query fun _ => rfl

/-- Every call keeps the property, whatever is refused. -/
theorem call_keepsDone (call : Call) {s : Db} (hs : PlacedAreDone s.participants) :
    call.program.Ensures True s fun _ t => PlacedAreDone t.participants := by
  -- The calls of wallets and escrows leave the participants alone.
  cases call with
  | createWallet _ => exact discard_ensures (keepsDone_of_frames (createWallet_frames _) s hs)
  | deposit _ => exact discard_ensures (keepsDone_of_frames (deposit_frames _) s hs)
  | withdraw _ => exact discard_ensures (keepsDone_of_frames (withdraw_frames _) s hs)
  | createMatch request => exact discard_ensures (createMatch_keepsDone request s hs)
  | joinMatch request => exact discard_ensures (joinMatch_keepsDone request s hs)
  | startMatch id now => exact discard_ensures (startMatch_keepsDone id now s hs)
  | submitResult request => exact discard_ensures (submitResult_keepsDone request s hs)
  | cancelMatch id now => exact discard_ensures (cancelMatch_keepsDone id now s hs)
  | createTournament request => exact discard_ensures (createTournament_keepsDone request s hs)
  | openRegistration id => exact discard_ensures (openRegistration_keepsDone id s hs)
  | registerPlayer request => exact discard_ensures (registerPlayer_keepsDone request s hs)
  | closeRegistration id => exact discard_ensures (closeRegistration_keepsDone id s hs)
  | generateBracket request => exact discard_ensures (generateBracket_keepsDone request s hs)
  | startTournament request => exact discard_ensures (startTournament_keepsDone request s hs)
  | advanceRound request => exact discard_ensures (advanceRound_keepsDone request s hs)
  | cancelTournament id now => exact discard_ensures (cancelTournament_keepsDone id now s hs)
  | createEscrow _ => exact discard_ensures (keepsDone_of_frames (createEscrow_frames _) s hs)
  | depositToEscrow _ =>
      exact discard_ensures (keepsDone_of_frames (depositToEscrow_frames _) s hs)
  | lockEscrow _ => exact discard_ensures (keepsDone_of_frames (lockEscrow_frames _) s hs)
  | releaseEscrow _ => exact discard_ensures (keepsDone_of_frames (releaseEscrow_frames _) s hs)
  | refundEscrow _ => exact discard_ensures (keepsDone_of_frames (refundEscrow_frames _) s hs)
  | closeEscrow _ => exact discard_ensures (keepsDone_of_frames (closeEscrow_frames _) s hs)
  | lockFunds _ => exact discard_ensures (keepsDone_of_frames (lockFunds_frames _) s hs)
  | unlockFunds _ => exact discard_ensures (keepsDone_of_frames (unlockFunds_frames _) s hs)
  | deductEntryFee _ _ =>
      exact discard_ensures (keepsDone_of_frames (deductEntryFee_frames _ _) s hs)

end Calls

/-! ### Runs -/

theorem placedAreDone_after (run : Run) : PlacedAreDone (Db.empty.after run).participants := by
  refine after_invariant (C := True) (P := fun _ => True)
    (I := fun db => PlacedAreDone db.participants) (fun call s _ hs => call_keepsDone call hs)
    (fun _ h => absurd h List.not_mem_nil) (fun _ _ => trivial) fun h => absurd trivial h

/-- Nobody has a placement before the match is over. -/
theorem unplaced_after {run : Run} (hrun : CalmRun run) {matchId : String} {m : Match}
    (hfind : (Db.empty.after run).matchRows.findOne matchId = some m) (hover : m.over = false) :
    Unplaced (Db.empty.after run) matchId := by
  intro p hp
  rcases List.mem_filter.mp hp with ⟨hmem, hmatch⟩
  rcases (ledger_after hrun).participants p hmem with ⟨-, row, hrow, hlive⟩
  rw [of_decide_eq_true hmatch, hfind] at hrow
  rw [← Option.some.inj hrow] at hlive
  by_contra hplaced
  have hdone := placedAreDone_after run p hmem hplaced
  rcases hlive hover with h | h
  · exact hdone.1 h
  · exact hdone.2 h

end Esports

end SvmCourse
