import SvmCourse.Esports.Tournament

/-!
# The Platform as a System

Every call the platform can serve, and the runs made of such calls. The public
calls are the ones the controller exposes. The internal ones are the escrow
and wallet operations that the services call on each other's behalf; runs may
contain them as well, with the amounts the services pass. Prize credits are not
among them, since only a payout makes them.

A run pairs each call with a pattern of refusals. A calm run is one in which
no pattern refuses anything.

## Main definitions

* `Call`: A call with all its inputs.
* `Call.program`: The service method a call runs.
* `Call.Accepted`: What request validation promises about a call.
* `Run`, `Db.after`: Runs and the store they end in.
* `Run.Public`, `Run.Calm`: The kinds of runs the results speak of.
* `Run.calmly`, `fundPlayers`: Building calm runs.
* `settledMatch`, `joinedMatch`, `registeredTournament`,
  `bracketedTournament`: Short runs the examples start from.
* `startedTournament`: A tournament in progress.

## Theorems

* `after_invariant`: What every call keeps, every run keeps.
-/

namespace SvmCourse

namespace Esports

open Core Core.Prog

/-- The calls of the services. -/
inductive Call where
  | createWallet (request : CreatePlayerWalletRequest)
  | deposit (request : DepositRequest)
  | withdraw (request : WithdrawRequest)
  | createMatch (request : CreateMatchRequest)
  | joinMatch (request : JoinMatchRequest)
  | startMatch (matchId : String) (now : Int)
  | submitResult (request : SubmitResultRequest)
  | cancelMatch (matchId : String) (now : Int)
  | createTournament (request : CreateTournamentRequest)
  | openRegistration (tournamentId : String)
  | registerPlayer (request : RegisterPlayerRequest)
  | closeRegistration (tournamentId : String)
  | generateBracket (request : GenerateBracketRequest)
  | startTournament (request : StartTournamentRequest)
  | advanceRound (request : AdvanceRoundRequest)
  | cancelTournament (tournamentId : String) (now : Int)
  | createEscrow (request : CreateEscrowRequest)
  | depositToEscrow (request : DepositToEscrowRequest)
  | lockEscrow (escrowId : SourceId)
  | releaseEscrow (request : ReleaseEscrowRequest)
  | refundEscrow (request : RefundEscrowRequest)
  | closeEscrow (escrowId : SourceId)
  | lockFunds (request : LockFundsRequest)
  | unlockFunds (request : LockFundsRequest)
  | deductEntryFee (playerId : String) (amount : Int)

/-- Run a method for its effect. -/
def discard {α : Type} (p : Service α) : Service Unit := p.bind fun _ => Prog.done ()

/-- What a call does, access by access. -/
def Call.program : Call → Service Unit
  | .createWallet request => discard (Esports.createWallet request)
  | .deposit request => discard (Esports.deposit request)
  | .withdraw request => discard (Esports.withdraw request)
  | .createMatch request => discard (Esports.createMatch request)
  | .joinMatch request => discard (Esports.joinMatch request)
  | .startMatch matchId now => discard (Esports.startMatch matchId now)
  | .submitResult request => discard (Esports.submitResult request)
  | .cancelMatch matchId now => discard (Esports.cancelMatch matchId now)
  | .createTournament request => discard (Esports.createTournament request)
  | .openRegistration tournamentId => discard (Esports.openRegistration tournamentId)
  | .registerPlayer request => discard (Esports.registerPlayer request)
  | .closeRegistration tournamentId => discard (Esports.closeRegistration tournamentId)
  | .generateBracket request => discard (Esports.generateBracket request)
  | .startTournament request => discard (Esports.startTournament request)
  | .advanceRound request => discard (Esports.advanceRound request)
  | .cancelTournament tournamentId now => discard (Esports.cancelTournament tournamentId now)
  | .createEscrow request => discard (Esports.createEscrow request)
  | .depositToEscrow request => discard (Esports.depositToEscrow request)
  | .lockEscrow escrowId => discard (Esports.lockEscrow escrowId)
  | .releaseEscrow request => discard (Esports.releaseEscrow request)
  | .refundEscrow request => discard (Esports.refundEscrow request)
  | .closeEscrow escrowId => discard (Esports.closeEscrow escrowId)
  | .lockFunds request => discard (Esports.lockFunds request)
  | .unlockFunds request => discard (Esports.unlockFunds request)
  | .deductEntryFee playerId amount => discard (Esports.deductEntryFee playerId amount)

/-- The calls the controller exposes. -/
def Call.isPublic : Call → Bool
  | .createEscrow _ | .depositToEscrow _ | .lockEscrow _ | .releaseEscrow _ | .refundEscrow _
  | .closeEscrow _ | .lockFunds _ | .unlockFunds _ | .deductEntryFee _ _ => false
  | _ => true

/-- What is known of the inputs of a call: player ids are not empty, since the
    requests are validated, and the amounts that services pass to each other
    are not negative, since they are entry fees and prizes. -/
def Call.Accepted : Call → Prop
  -- The validation refuses an empty id.
  | .createWallet request => request.playerId ≠ ""
  | .joinMatch request => request.playerId ≠ ""
  | .registerPlayer request => request.playerId ≠ ""
  | .depositToEscrow request => 0 ≤ request.amount
  | .releaseEscrow request => ∀ dist ∈ request.distributions, 0 ≤ dist.amount
  | .lockFunds request => 0 ≤ request.amount
  | .unlockFunds request => 0 ≤ request.amount
  | .deductEntryFee _ amount => 0 ≤ amount
  | _ => True

instance : DecidablePred Call.Accepted
  | .createWallet request => inferInstanceAs (Decidable (request.playerId ≠ ""))
  | .joinMatch request => inferInstanceAs (Decidable (request.playerId ≠ ""))
  | .registerPlayer request => inferInstanceAs (Decidable (request.playerId ≠ ""))
  | .depositToEscrow request => inferInstanceAs (Decidable (0 ≤ request.amount))
  | .releaseEscrow request =>
    inferInstanceAs (Decidable (∀ dist ∈ request.distributions, 0 ≤ dist.amount))
  | .lockFunds request => inferInstanceAs (Decidable (0 ≤ request.amount))
  | .unlockFunds request => inferInstanceAs (Decidable (0 ≤ request.amount))
  | .deductEntryFee _ amount => inferInstanceAs (Decidable (0 ≤ amount))
  | .deposit _ | .withdraw _ | .createMatch _ | .startMatch _ _ | .submitResult _
  | .cancelMatch _ _ | .createTournament _ | .openRegistration _ | .closeRegistration _
  | .generateBracket _ | .startTournament _ | .advanceRound _ | .cancelTournament _ _
  | .createEscrow _ | .lockEscrow _ | .refundEscrow _ | .closeEscrow _ => isTrue trivial

/-- Calls, each with the accesses the store refuses it. -/
abbrev Run := List (Call × (Nat → Bool))

namespace Run

/-- Every request of the run passes the checks of its class. -/
def Accepted (run : Run) : Prop := ∀ call ∈ run, call.1.Accepted

/-- No access of the run is refused. -/
def Calm (run : Run) : Prop := ∀ call ∈ run, call.2 = calm

/-- The run has only calls that a client can make. -/
def Public (run : Run) : Prop := ∀ call ∈ run, call.1.isPublic = true

instance (run : Run) : Decidable run.Accepted :=
  inferInstanceAs (Decidable (∀ call ∈ run, call.1.Accepted))

instance (run : Run) : Decidable run.Public :=
  inferInstanceAs (Decidable (∀ call ∈ run, call.1.isPublic = true))

/-- The calm run of the calls. -/
def calmly (calls : List Call) : Run := calls.map fun call => (call, calm)

theorem calmly_calm (calls : List Call) : (calmly calls).Calm := by
  intro call hcall
  rcases List.mem_map.mp hcall with ⟨_, -, rfl⟩
  rfl

end Run

/-- The store after a run from the given store. -/
def Db.after (db : Db) (run : Run) : Db := afterRun Call.program run db

/-- The calls that give each player a wallet with the amount. -/
def fundPlayers (players : List String) (amount : Int) : List Call :=
  players.flatMap fun playerId =>
    [.createWallet { playerId := playerId, now := 0 },
     .deposit { playerId := playerId, amount := amount, signature := "deposit" }]

/-- Three funded players play a match for one million each. -/
def settledMatch : Run :=
  Run.calmly (fundPlayers ["a", "b", "c"] 5000000 ++
    [.createMatch { hex := "m", entryFee := 1000000, maxPlayers := 3 },
     .joinMatch { matchId := "m", playerId := "a" },
     .joinMatch { matchId := "m", playerId := "b" },
     .joinMatch { matchId := "m", playerId := "c" },
     .startMatch "m" 0,
     .submitResult { matchId := "m", winnerIds := ["a"], now := 1 }])

/-- A funded player joins a match. -/
def joinedMatch : Run :=
  Run.calmly (fundPlayers ["a"] 5000000 ++
    [.createMatch { hex := "m", entryFee := 1000000 },
     .joinMatch { matchId := "m", playerId := "a" }])

/-- The calls that open a tournament for registration. -/
def openTournament : List Call :=
  [.createTournament
    { hex := "t", entryFee := 1000000, maxParticipants := 4, bracketType := .SINGLE_ELIMINATION,
      registrationStart := 0, registrationEnd := 100 },
   .openRegistration "t"]

/-- A funded player registers for a tournament. -/
def registeredTournament : Run :=
  Run.calmly (fundPlayers ["a"] 5000000 ++ openTournament ++
    [.registerPlayer { tournamentId := "t", playerId := "a", now := 0 }])

/-- Funded players are registered, and the bracket is generated. -/
def bracketedTournament (players : List String) : Run :=
  Run.calmly (fundPlayers players 5000000 ++ openTournament ++
    players.map (fun playerId =>
      .registerPlayer { tournamentId := "t", playerId := playerId, now := 0 }) ++
    [.closeRegistration "t",
     .generateBracket
      { tournamentId := "t", shuffle := ⟨id, fun l => List.Perm.refl l⟩
        hex := fun _ _ => "m" }])

/-- The same with the tournament in progress, which no call achieves. -/
def startedTournament (players : List String) : Db :=
  let s := Db.empty.after (bracketedTournament players)
  { s with
    tournaments := s.tournaments.update (fun _ => true)
      (fun t => { t with status := .IN_PROGRESS }) fun _ => rfl }

theorem Db.after_append (db : Db) (run run' : Run) :
    db.after (run ++ run') = (db.after run).after run' :=
  afterRun_append Call.program run run' db

theorem discard_eval {α : Type} (p : Service α) (s : Db) :
    ((discard p).eval s).2 = (p.eval s).2 := by
  unfold discard
  rw [eval_bind]
  rcases p.eval s with ⟨r, t⟩
  cases r <;> rfl

/-- One calm call after another. -/
theorem after_calmly_cons (call : Call) (calls : List Call) (s : Db) :
    s.after (Run.calmly (call :: calls)) = (call.program.eval s).2.after (Run.calmly calls) := by
  unfold Db.after afterRun Run.calmly
  rw [List.map_cons, List.foldl_cons, run_calm]

theorem discard_ensures {C : Prop} {α : Type} {p : Service α} {s : Db} {I : Db → Prop}
    (h : p.Ensures C s fun _ t => I t) : (discard p).Ensures C s fun _ t => I t := by
  refine ensures_bind (ensures_mono h fun r t ht => ?_)
  cases r with
  | ok a => exact ht
  | error e => exact ht

/-- What every call that satisfies `P` keeps, every run of such calls keeps. -/
theorem after_invariant {C : Prop} {P : Call → Prop} {I : Db → Prop}
    (hstep : ∀ call s, P call → I s → call.program.Ensures C s fun _ t => I t)
    {run : Run} {s : Db} (hs : I s) (hP : ∀ call ∈ run, P call.1)
    (hcalm : ¬C → run.Calm) : I (s.after run) := by
  refine afterRun_invariant hstep run s hs fun call hc => ⟨hP call hc, ?_⟩
  by_cases h : C
  · exact Or.inr h
  · exact Or.inl (hcalm h call hc)

end Esports

end SvmCourse
