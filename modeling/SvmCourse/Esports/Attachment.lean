import SvmCourse.Core.Beside
import SvmCourse.Core.Machine
import SvmCourse.Esports.Entering
import SvmCourse.Esports.Starting

/-!
# Rows Stay Attached

A match is read with its participants and a tournament with its registrations,
and saving it saves them too: as they were read, and those that are stored but
were not read are to be detached. The column they refer by does not admit that,
so the save is rejected as a whole.

The services are the same as before but for these saves. A call that enters
somebody stores the row after the parent was read, and saves the parent as it
was read. All other calls store no new rows.

## Main definitions

* `Linked`: The store, and the saves that were rejected.
* `saveMatch`, `saveTournament`: Saving a parent with the rows it was read with.
* `Call.linked`: The calls with these saves.
* `Db.admits`: The player can enter.
* `StayAttached`: Rows stay, and are those of the calls that succeeded.

## Theorems

* `enter_linked`: The parent of whoever enters is not saved.
* `linked_upholds`: The other calls keep all rows and save all parents.
* `stayAttached_iff`: Rows stay attached exactly when nobody enters.
-/

namespace SvmCourse

namespace Esports

open Core Core.Prog Core.Machine

/-! ### Saving with what was read -/

/-- The store, and whose saves were rejected. -/
abbrev Linked := Db × List SourceId

/-- A call of the services on a store whose rows can lose their owner. -/
abbrev LinkedService (α : Type) := Prog Linked ServiceError α

/-- Every stored row is among those that were read. -/
def covers {V K : Type} [DecidableEq K] (key : V → K) (stored loaded : List V) : Bool :=
  stored.all fun v => (loaded.map key).contains (key v)

/-- The participants are saved as they were read, unless one of those stored
    would be detached. -/
def saveMatch (m : Match) (participants : List MatchParticipant) : LinkedService Unit := do
  let saved ← perform .StoreError fun s =>
    if covers MatchParticipant.key (s.1.participants.find fun p => p.matchId = m.matchId)
        participants then
      -- The participants that were read are written over those that are stored.
      (true, { s.1 with
        matchRows := s.1.matchRows.save m
        participants := participants.foldl Table.save s.1.participants }, s.2)
    else (false, s.1, s.2 ++ [m.source])
  require saved .StoreError

/-- Save a tournament with the registrations that were loaded. One that is missing
    there loses its owner. -/
def saveTournament (t : Tournament) (registrations : List TournamentRegistration) :
    LinkedService Unit := do
  let saved ← perform .StoreError fun s =>
    if covers TournamentRegistration.key
        (s.1.registrations.find fun r => r.tournamentId = t.tournamentId) registrations then
      (true, { s.1 with
        tournaments := s.1.tournaments.save t
        registrations := registrations.foldl Table.save s.1.registrations }, s.2)
    -- A stored row that was not loaded would lose its parent, which the column does
    -- not allow.
    else (false, s.1, s.2 ++ [t.source])
  require saved .StoreError

namespace Linked

/-! ### Matches -/

/-- An entry up to the rows that record it. -/
def payment {α : Type} (entry : Entry α) : Entry Unit :=
  { entry with register := fun _ => pure () }

/-- The entry of a player, with the registration of its own. -/
def enter (payment : Entry Unit) (register : PlayerWallet → LinkedService Unit) :
    LinkedService Unit := do
  let wallet ← (lockEntry payment).beside
  ((enterBody payment wallet).beside.bind fun _ => register wallet).onError
    fun error => (rollbackEntry payment error).beside

/-- Save the participant, and the match with those loaded before. -/
def registerParticipant (m : LoadedMatch) (request : JoinMatchRequest) (wallet : PlayerWallet) :
    LinkedService Unit := do
  (participantRepository.save (newParticipant m request wallet)).beside
  saveMatch (afterJoin m) m.participants

/-- `joinMatch`, with the rows that lose their owner. -/
def joinMatch (request : JoinMatchRequest) : LinkedService Unit := do
  let m ← (checkJoin request).beside
  enter (payment (joinEntry request m)) (registerParticipant m request)

/-- `startMatch`, with the rows that lose their owner. -/
def startMatch (matchId : String) (now : Int) : LinkedService Unit := do
  let m ← (getMatchById matchId).beside
  require m.canStart (.BadRequestException s!"Match {matchSource matchId} cannot be started")
  let escrow ← (getEscrowBySource (matchSource matchId)).beside
  let _ ← (lockEscrow escrow.escrowId).beside
  (participantRepository.update (fun p => p.matchId = m.matchId ∧ p.status = .JOINED)
    (fun p => { p with status := .PLAYING }) playing_key).beside
  saveMatch { m.toMatch with status := .IN_PROGRESS, startedAt := some now } m.participants

/-- `submitResult`, with the rows that lose their owner. -/
def submitResult (request : SubmitResultRequest) : LinkedService Unit := do
  let m ← (getMatchById request.matchId).beside
  require (m.status = .IN_PROGRESS)
    (.BadRequestException s!"Match {matchSource request.matchId} is not in progress")
  let participants ← (participantRepository.find fun p => p.matchId = m.matchId).beside
  let participantPlayerIds := participants.map MatchParticipant.playerId
  compute (checkResult m.toMatch request participantPlayerIds)
  let completed := afterResult m.toMatch request
  -- Saved with the participants that were loaded with the match.
  saveMatch completed m.participants
  (each ((rankedPlayerIds request).zipIdx 1) fun ranked =>
    finishParticipant m.matchId ranked.1 ranked.2).beside
  (each (participantPlayerIds.filter fun id => !request.winnerIds.contains id) fun loserId =>
    finishParticipant m.matchId loserId (request.winnerIds.length + 1)).beside
  let _ ← (distributeMatchPrizes completed participants).beside
  saveMatch { completed with status := .SETTLED } m.participants

/-- `cancelMatch`, with the rows that lose their owner. -/
def cancelMatch (matchId : String) (now : Int) : LinkedService Unit := do
  let m ← (getMatchById matchId).beside
  require (!([MatchStatus.COMPLETED, .SETTLED, .CANCELLED].contains m.status))
    (.BadRequestException s!"Match {matchSource matchId} cannot be cancelled")
  let escrow ← (getEscrowBySource (matchSource matchId)).beside
  let _ ← (refundEscrow { escrowId := escrow.escrowId }).beside
  let participants ← (participantRepository.find fun p =>
    p.matchId = m.matchId && [ParticipantStatus.JOINED, .PLAYING].contains p.status).beside
  (each participants (refundParticipant m.toMatch)).beside
  -- By now the participants may be refunded, but their keys are the same.
  saveMatch { m.toMatch with status := .CANCELLED, endedAt := some now } m.participants

/-! ### Tournaments -/

/-- `openRegistration`, with the rows that lose their owner. -/
def openRegistration (tournamentId : String) : LinkedService Unit := do
  let t ← (getTournamentById tournamentId).beside
  require (t.status = .DRAFT) (.BadRequestException
    s!"Tournament {tournamentSource tournamentId} cannot open registration")
  saveTournament { t.toTournament with status := .REGISTRATION_OPEN } t.registrations

/-- Save the registration, and the tournament with those loaded before. -/
def registerRegistration (t : LoadedTournament) (request : RegisterPlayerRequest)
    (wallet : PlayerWallet) : LinkedService Unit := do
  (registrationRepository.save (newRegistration t request wallet)).beside
  saveTournament (afterRegistration t) t.registrations

/-- `registerPlayer`, with the rows that lose their owner. -/
def registerPlayer (request : RegisterPlayerRequest) : LinkedService Unit := do
  let t ← (checkRegistration request).beside
  enter (payment (registrationEntry request t)) (registerRegistration t request)

/-- `closeRegistration`, with the rows that lose their owner. -/
def closeRegistration (tournamentId : String) : LinkedService Unit := do
  let t ← (getTournamentById tournamentId).beside
  require (t.status = .REGISTRATION_OPEN) (.BadRequestException
    s!"Tournament {tournamentSource tournamentId} registration is not open")
  saveTournament { t.toTournament with status := .REGISTRATION_CLOSED } t.registrations

/-- `generateBracket`, with the rows that lose their owner. -/
def generateBracket (request : GenerateBracketRequest) : LinkedService Unit := do
  let t ← (getTournamentById request.tournamentId).beside
  require t.canGenerateBracket (.BadRequestException
    s!"Tournament {tournamentSource request.tournamentId} cannot generate bracket")
  let registrations ← (registrationRepository.find fun r =>
    r.tournamentId = t.tournamentId && r.isCounted).beside
  require (t.minParticipants ≤ registrations.length) (.BadRequestException
    s!"Insufficient participants: {registrations.length}/{t.minParticipants}")
  let seededPlayers := seedPlayers request.shuffle registrations
  let bracket := generateBracketStructure t.bracketType request.hex
    (seededPlayers.map TournamentRegistration.playerId)
  (each (seededPlayers.zipIdx 1) seedRegistration).beside
  -- The bracket is stored before the escrow is locked.
  saveTournament { t.toTournament with bracket := some bracket, status := .BRACKET_GENERATED }
    t.registrations
  let escrow ← (getEscrowBySource t.source).beside
  let _ ← (lockEscrow escrow.escrowId).beside
  pure ()

/-- `startTournament`, with the rows that lose their owner. -/
def startTournament (request : StartTournamentRequest) : LinkedService Unit := do
  let t ← (getTournamentById request.tournamentId).beside
  require (t.status = .BRACKET_GENERATED) (.BadRequestException
    s!"Tournament {tournamentSource request.tournamentId} bracket not generated")
  (each (firstRoundMatches t.toTournament).zipIdx (createPairing request.hex)).beside
  saveTournament { t.toTournament with status := .IN_PROGRESS } t.registrations

/-- `advanceRound`, with the rows that lose their owner. -/
def advanceRound (request : AdvanceRoundRequest) : LinkedService Unit := do
  let t ← (getTournamentById request.tournamentId).beside
  require (t.status = .IN_PROGRESS) (.BadRequestException
    s!"Tournament {tournamentSource request.tournamentId} is not in progress")
  let bracket ← demand t.bracket
    (.TypeError "Cannot read properties of undefined (reading 'rounds')")
  let recorded := recordResults bracket request.results
  if finalDecided recorded then do
    (completeTournament (completedTournament t.toTournament recorded request.now)).beside
    saveTournament (completedTournament t.toTournament recorded request.now) t.registrations
  else saveTournament (advancedTournament t.toTournament recorded) t.registrations

/-- `cancelTournament`, with the rows that lose their owner. -/
def cancelTournament (tournamentId : String) (now : Int) : LinkedService Unit := do
  let t ← (getTournamentById tournamentId).beside
  require (t.status ≠ .COMPLETED) (.BadRequestException "Cannot cancel completed tournament")
  let escrow ← (getEscrowBySource t.source).beside
  let _ ← (refundEscrow { escrowId := escrow.escrowId }).beside
  let registrations ← (registrationRepository.find fun r =>
    r.tournamentId = t.tournamentId && r.status = .CONFIRMED).beside
  (each registrations (refundRegistration t.toTournament)).beside
  saveTournament { t.toTournament with status := .CANCELLED, endDate := some now } t.registrations

end Linked

/-- The calls that read a parent save it with what they read. -/
def Call.linked (call : Call) : LinkedService Unit :=
  match call with
  | .joinMatch request => Linked.joinMatch request
  | .startMatch matchId now => Linked.startMatch matchId now
  | .submitResult request => Linked.submitResult request
  | .cancelMatch matchId now => Linked.cancelMatch matchId now
  | .openRegistration tournamentId => Linked.openRegistration tournamentId
  | .registerPlayer request => Linked.registerPlayer request
  | .closeRegistration tournamentId => Linked.closeRegistration tournamentId
  | .generateBracket request => Linked.generateBracket request
  | .startTournament request => Linked.startTournament request
  | .advanceRound request => Linked.advanceRound request
  | .cancelTournament tournamentId now => Linked.cancelTournament tournamentId now
  -- These save no row with relations.
  | .createWallet _ | .deposit _ | .withdraw _ | .createMatch _ | .createTournament _
  | .createEscrow _ | .depositToEscrow _ | .lockEscrow _ | .releaseEscrow _ | .refundEscrow _
  | .closeEscrow _ | .lockFunds _ | .unlockFunds _ | .deductEntryFee _ _ => call.program.beside

/-- One call on such a store. -/
def linkedStep (s : Linked) (call : Call) : Except ServiceError Unit × Linked := call.linked.eval s

/-! ### Which rows there are -/

/-- The keys of participants and registrations. -/
def Db.rowKeys (db : Db) : List (String × String) × List (String × String) :=
  (db.participants.rows.map MatchParticipant.key,
    db.registrations.rows.map TournamentRegistration.key)

instance : ReadsRows rowsView := ⟨id⟩

instance : ReadsRows Db.rowKeys where
  congr h := by
    simp only [rowsView, Prod.mk.injEq] at h
    unfold Db.rowKeys
    rw [h.2.1, h.2.2.2]

section Rows

variable {V K : Type} [DecidableEq K] {key : V → K} {t : Table key} {loaded : List V}

theorem covers_iff {stored : List V} :
    covers key stored loaded = true ↔ ∀ v ∈ stored, key v ∈ loaded.map key := by
  rw [covers, List.all_eq_true]
  exact forall₂_congr fun v _ => List.contains_iff_mem

/-- Saving a row that is stored adds no key. -/
theorem keys_save {r : V} (h : key r ∈ t.rows.map key) :
    (t.save r).rows.map key = t.rows.map key := by
  obtain ⟨old, hold⟩ := Table.key_mem_iff.mp h
  exact Table.map_save hold (Table.key_of_findOne hold).symm

theorem keys_saveAll (h : ∀ v ∈ loaded, key v ∈ t.rows.map key) :
    (loaded.foldl Table.save t).rows.map key = t.rows.map key := by
  -- Each save leaves the keys, so the next row is stored as well.
  induction loaded generalizing t with
  | nil => rfl
  | cons v loaded ih =>
      have hone := keys_save (h v (List.mem_cons_self ..))
      rw [List.foldl_cons, ih, hone]
      intro w hw
      rw [hone]
      exact h w (List.mem_cons_of_mem _ hw)

end Rows

/-- The rows that were stored at first are stored, and no save was rejected
    since. -/
def Still (base s : Linked) : Prop := s.1.rowKeys = base.1.rowKeys ∧ s.2 = base.2

section Upholding

variable {base : Linked} {α β : Type}

theorem upholds_frames {p : Service α} (h : p.Frames Db.rowKeys) :
    (p.beside : LinkedService α).Upholds (Still base) fun _ => True :=
  upholds_beside (upholds_of_frames (J := fun keys => keys = base.1.rowKeys) h) base.2

theorem upholds_after {p : Service α} {f : α → LinkedService β} (hp : p.Frames Db.rowKeys)
    (hf : ∀ a, (f a).Upholds (Still base) fun _ => True) :
    (p.beside.bind f).Upholds (Still base) fun _ => True :=
  upholds_bind (upholds_frames hp) fun a _ => hf a

/-- The participants a match was read with are those that are stored. -/
def ReadsAll (base : Db) (m : LoadedMatch) : Prop :=
  ∀ key : String × String, key ∈ m.participants.map MatchParticipant.key ↔
    key ∈ base.rowKeys.1 ∧ key.1 = m.matchId

/-- The tournament is loaded with all registrations that the store has for it. -/
def ReadsAllRegistrations (base : Db) (t : LoadedTournament) : Prop :=
  ∀ key : String × String, key ∈ t.registrations.map TournamentRegistration.key ↔
    key ∈ base.rowKeys.2 ∧ key.1 = t.tournamentId

theorem getMatchById_upholds (matchId : String) :
    ((getMatchById matchId).beside : LinkedService LoadedMatch).Upholds (Still base)
      (ReadsAll base.1) := by
  refine upholds_beside (I := fun s : Db => s.rowKeys = base.1.rowKeys) ?_ base.2
  refine upholds_bind (R := fun found => ∀ m ∈ found, ReadsAll base.1 m)
    (upholds_perform fun s hs => ⟨hs, fun m hm key => ?_⟩) fun _ h => upholds_demand h
  obtain ⟨row, hrow, rfl⟩ := Option.map_eq_some_iff.mp hm
  have hid : row.matchId = matchId := Table.key_of_findOne hrow
  subst hid
  rw [← hs, Table.find, Db.rowKeys, List.mem_map, List.mem_map]
  simp only [List.mem_filter, decide_eq_true_eq, MatchParticipant.key]
  -- The participants read are the rows of that match.
  constructor
  · rintro ⟨p, ⟨hp, hmatch⟩, rfl⟩
    exact ⟨⟨p, hp, rfl⟩, hmatch⟩
  · rintro ⟨⟨p, hp, rfl⟩, hmatch⟩
    exact ⟨p, ⟨hp, hmatch⟩, rfl⟩

theorem saveMatch_linked {m : Match} {loaded : LoadedMatch} (h : ReadsAll base.1 loaded)
    (hid : m.matchId = loaded.matchId) :
    (saveMatch m loaded.participants).Upholds (Still base) fun _ => True := by
  refine upholds_bind (R := fun _ => True) (upholds_perform fun s hs => ?_)
    fun _ _ => upholds_require fun _ => trivial
  have hkeys : s.1.participants.rows.map MatchParticipant.key = base.1.rowKeys.1 :=
    congrArg Prod.fst hs.1
  -- All participants were loaded with the match, so the cascade finds a row for each.
  have hall : covers MatchParticipant.key
      (s.1.participants.find fun p => p.matchId = m.matchId) loaded.participants = true := by
    refine covers_iff.mpr fun p hp => (h p.key).mpr ?_
    obtain ⟨hmem, hmatch⟩ := List.mem_filter.mp hp
    rw [decide_eq_true_eq, hid] at hmatch
    rw [← hkeys]
    exact ⟨List.mem_map_of_mem hmem, hmatch⟩
  rw [if_pos hall]
  refine ⟨⟨?_, hs.2⟩, trivial⟩
  rw [← hs.1]
  -- Saving them again adds no key.
  refine Prod.ext (keys_saveAll fun p hp => ?_) rfl
  rw [hkeys]
  exact ((h p.key).mp (List.mem_map_of_mem hp)).1

/-- What a call that reads a match and saves it has to do in between. -/
theorem upholds_withMatch {matchId : String} {f : LoadedMatch → LinkedService α}
    (hf : ∀ m, ReadsAll base.1 m → (f m).Upholds (Still base) fun _ => True) :
    ((getMatchById matchId).beside.bind f).Upholds (Still base) fun _ => True :=
  upholds_bind (getMatchById_upholds matchId) hf

theorem updateParticipants_frames (p : MatchParticipant → Bool)
    (f : MatchParticipant → MatchParticipant) (hf : ∀ r, (f r).key = r.key) :
    (participantRepository.update p f hf).Frames Db.rowKeys := by
  refine frames_perform fun db => ?_
  have hkeys : (db.participants.update p f hf).rows.map MatchParticipant.key =
      db.participants.rows.map MatchParticipant.key := Table.map_update fun r _ _ => hf r
  exact Prod.ext hkeys rfl

theorem startMatch_linked (matchId : String) (now : Int) :
    (Linked.startMatch matchId now).Upholds (Still base) fun _ => True := by
  refine upholds_withMatch fun m hm => ?_
  refine upholds_bind (R := fun _ => True) (upholds_require fun _ => trivial) fun _ _ => ?_
  refine upholds_after (getEscrow_frames _ _) fun escrow => ?_
  refine upholds_after (lockEscrow_frames _) fun _ => ?_
  exact upholds_after (updateParticipants_frames _ _ _) fun _ => saveMatch_linked hm rfl

theorem submitResult_linked (request : SubmitResultRequest) :
    (Linked.submitResult request).Upholds (Still base) fun _ => True := by
  refine upholds_withMatch fun m hm => ?_
  refine upholds_bind (R := fun _ => True) (upholds_require fun _ => trivial) fun _ _ => ?_
  refine upholds_after (money_frames fun _ => rfl) fun participants => ?_
  refine upholds_bind (R := fun _ => True) (upholds_compute fun _ _ => trivial) fun _ _ => ?_
  refine upholds_bind (saveMatch_linked hm rfl) fun _ _ => ?_
  refine upholds_after (frames_each fun _ => updateParticipants_frames _ _ _) fun _ => ?_
  refine upholds_after (frames_each fun _ => updateParticipants_frames _ _ _) fun _ => ?_
  refine upholds_after (distribute_frames fun _ => updateParticipants_frames _ _ _) fun _ => ?_
  exact saveMatch_linked hm rfl

/-- The rows a call finds are stored. -/
theorem findParticipants_upholds (p : MatchParticipant → Bool) :
    ((participantRepository.find p).beside : LinkedService _).Upholds (Still base)
      fun participants => ∀ r ∈ participants, r.key ∈ base.1.rowKeys.1 :=
  upholds_beside (I := fun s : Db => s.rowKeys = base.1.rowKeys)
    (upholds_perform fun _ hs => ⟨hs, fun _ hr =>
      hs ▸ List.mem_map_of_mem (List.mem_of_mem_filter hr)⟩) base.2

theorem refundParticipant_upholds {m : Match} {participant : MatchParticipant}
    (h : participant.key ∈ base.1.rowKeys.1) :
    (refundParticipant m participant).Upholds (fun s => s.rowKeys = base.1.rowKeys)
      fun _ => True := by
  refine upholds_bind (upholds_of_frames (J := fun keys => keys = base.1.rowKeys)
    (unlockFunds_frames _)) fun _ _ => upholds_perform fun s hs => ⟨?_, trivial⟩
  rw [← hs] at h ⊢
  have hkeys : (s.participants.save { participant with status := .WITHDRAWN }).rows.map
      MatchParticipant.key = s.participants.rows.map MatchParticipant.key := keys_save h
  exact Prod.ext hkeys rfl

theorem cancelMatch_linked (matchId : String) (now : Int) :
    (Linked.cancelMatch matchId now).Upholds (Still base) fun _ => True := by
  refine upholds_withMatch fun m hm => ?_
  refine upholds_bind (R := fun _ => True) (upholds_require fun _ => trivial) fun _ _ => ?_
  refine upholds_after (getEscrow_frames _ _) fun escrow => ?_
  refine upholds_after (refundEscrow_frames _) fun _ => ?_
  refine upholds_bind (findParticipants_upholds _) fun participants hstored => ?_
  refine upholds_bind (upholds_beside (upholds_each fun r hr =>
    refundParticipant_upholds (hstored r hr)) base.2) fun _ _ => ?_
  exact saveMatch_linked hm rfl

/-! ### Tournaments keep their rows -/

theorem getTournamentById_upholds (tournamentId : String) :
    ((getTournamentById tournamentId).beside : LinkedService LoadedTournament).Upholds
      (Still base) (ReadsAllRegistrations base.1) := by
  refine upholds_beside (I := fun s : Db => s.rowKeys = base.1.rowKeys) ?_ base.2
  refine upholds_bind (R := fun found => ∀ t ∈ found, ReadsAllRegistrations base.1 t)
    (upholds_perform fun s hs => ⟨hs, fun t ht key => ?_⟩) fun _ h => upholds_demand h
  obtain ⟨row, hrow, rfl⟩ := Option.map_eq_some_iff.mp ht
  have hid : row.tournamentId = tournamentId := Table.key_of_findOne hrow
  subst hid
  rw [← hs, Table.find, Db.rowKeys, List.mem_map, List.mem_map]
  simp only [List.mem_filter, decide_eq_true_eq, TournamentRegistration.key]
  -- The registrations read are the rows of that tournament.
  constructor
  · rintro ⟨r, ⟨hr, hmatch⟩, rfl⟩
    exact ⟨⟨r, hr, rfl⟩, hmatch⟩
  · rintro ⟨⟨r, hr, rfl⟩, hmatch⟩
    exact ⟨r, ⟨hr, hmatch⟩, rfl⟩

theorem saveTournament_linked {t : Tournament} {loaded : LoadedTournament}
    (h : ReadsAllRegistrations base.1 loaded) (hid : t.tournamentId = loaded.tournamentId) :
    (saveTournament t loaded.registrations).Upholds (Still base) fun _ => True := by
  refine upholds_bind (R := fun _ => True) (upholds_perform fun s hs => ?_)
    fun _ _ => upholds_require fun _ => trivial
  have hkeys : s.1.registrations.rows.map TournamentRegistration.key = base.1.rowKeys.2 :=
    congrArg Prod.snd hs.1
  -- As for a match: every registration was loaded, so none loses its parent.
  have hall : covers TournamentRegistration.key
      (s.1.registrations.find fun r => r.tournamentId = t.tournamentId)
      loaded.registrations = true := by
    refine covers_iff.mpr fun r hr => (h r.key).mpr ?_
    obtain ⟨hmem, hmatch⟩ := List.mem_filter.mp hr
    rw [decide_eq_true_eq, hid] at hmatch
    rw [← hkeys]
    exact ⟨List.mem_map_of_mem hmem, hmatch⟩
  rw [if_pos hall]
  refine ⟨⟨?_, hs.2⟩, trivial⟩
  rw [← hs.1]
  refine Prod.ext rfl (keys_saveAll fun r hr => ?_)
  rw [hkeys]
  exact ((h r.key).mp (List.mem_map_of_mem hr)).1

theorem upholds_withTournament {tournamentId : String} {f : LoadedTournament → LinkedService α}
    (hf : ∀ t, ReadsAllRegistrations base.1 t → (f t).Upholds (Still base) fun _ => True) :
    ((getTournamentById tournamentId).beside.bind f).Upholds (Still base) fun _ => True :=
  upholds_bind (getTournamentById_upholds tournamentId) hf

theorem updateRegistrations_frames (p : TournamentRegistration → Bool)
    (f : TournamentRegistration → TournamentRegistration) (hf : ∀ r, (f r).key = r.key) :
    (registrationRepository.update p f hf).Frames Db.rowKeys := by
  refine frames_perform fun db => ?_
  have hkeys : (db.registrations.update p f hf).rows.map TournamentRegistration.key =
      db.registrations.rows.map TournamentRegistration.key := Table.map_update fun r _ _ => hf r
  exact Prod.ext rfl hkeys

/-- Opening and closing registration. -/
theorem openRegistration_linked (tournamentId : String) :
    (Linked.openRegistration tournamentId).Upholds (Still base) fun _ => True :=
  upholds_withTournament fun _ ht => upholds_bind (R := fun _ => True)
    (upholds_require fun _ => trivial) fun _ _ => saveTournament_linked ht rfl

theorem closeRegistration_linked (tournamentId : String) :
    (Linked.closeRegistration tournamentId).Upholds (Still base) fun _ => True :=
  upholds_withTournament fun _ ht => upholds_bind (R := fun _ => True)
    (upholds_require fun _ => trivial) fun _ _ => saveTournament_linked ht rfl

theorem generateBracket_linked (request : GenerateBracketRequest) :
    (Linked.generateBracket request).Upholds (Still base) fun _ => True := by
  refine upholds_withTournament fun t ht => ?_
  refine upholds_bind (R := fun _ => True) (upholds_require fun _ => trivial) fun _ _ => ?_
  refine upholds_after (money_frames fun _ => rfl) fun registrations => ?_
  refine upholds_bind (R := fun _ => True) (upholds_require fun _ => trivial) fun _ _ => ?_
  refine upholds_after (frames_each fun _ => updateRegistrations_frames _ _ _) fun _ => ?_
  refine upholds_bind (saveTournament_linked ht rfl) fun _ _ => ?_
  refine upholds_after (getEscrow_frames _ _) fun escrow => ?_
  exact upholds_after (lockEscrow_frames _) fun _ => trivial

theorem createMatch_rowKeys (request : CreateMatchRequest) :
    (createMatch request).Frames Db.rowKeys :=
  frames_bind (frames_require _ _) fun _ => frames_bind (frames_compute _) fun _ =>
    frames_bind (createEscrow_frames _) fun _ => frames_bind (frames_perform fun _ => rfl)
      fun _ => trivial

theorem createTournament_rowKeys (request : CreateTournamentRequest) :
    (createTournament request).Frames Db.rowKeys :=
  frames_bind (frames_require _ _) fun _ => frames_bind (frames_require _ _) fun _ =>
    frames_bind (createEscrow_frames _) fun _ => frames_bind (frames_perform fun _ => rfl)
      fun _ => trivial

theorem createPairing_rowKeys (hex : Nat → String) (pairing : BracketMatch × Nat) :
    (createPairing hex pairing).Frames Db.rowKeys := by
  unfold createPairing
  split
  · exact frames_bind (createMatch_rowKeys _) fun _ => trivial
  · exact trivial

theorem startTournament_linked (request : StartTournamentRequest) :
    (Linked.startTournament request).Upholds (Still base) fun _ => True := by
  refine upholds_withTournament fun t ht => ?_
  refine upholds_bind (R := fun _ => True) (upholds_require fun _ => trivial) fun _ _ => ?_
  exact upholds_after (frames_each fun _ => createPairing_rowKeys _ _) fun _ =>
    saveTournament_linked ht rfl

theorem completeTournament_rowKeys (t : Tournament) :
    (completeTournament t).Frames Db.rowKeys :=
  frames_bind (money_frames fun _ => rfl) fun _ =>
    frames_bind (frames_each fun _ => updateRegistrations_frames _ _ _) fun _ =>
      frames_bind (money_frames fun _ => rfl) fun _ =>
        frames_bind (distribute_frames fun _ => updateRegistrations_frames _ _ _)
          fun _ => trivial

theorem advanceRound_linked (request : AdvanceRoundRequest) :
    (Linked.advanceRound request).Upholds (Still base) fun _ => True := by
  refine upholds_withTournament fun t ht => ?_
  refine upholds_bind (R := fun _ => True) (upholds_require fun _ => trivial) fun _ _ => ?_
  refine upholds_bind (R := fun _ => True) (upholds_demand fun _ _ => trivial) fun bracket _ => ?_
  dsimp only
  split
  · exact upholds_after (completeTournament_rowKeys _) fun _ => saveTournament_linked ht rfl
  · exact saveTournament_linked ht rfl

theorem findRegistrations_upholds (p : TournamentRegistration → Bool) :
    ((registrationRepository.find p).beside : LinkedService _).Upholds (Still base)
      fun registrations => ∀ r ∈ registrations, r.key ∈ base.1.rowKeys.2 :=
  upholds_beside (I := fun s : Db => s.rowKeys = base.1.rowKeys)
    (upholds_perform fun _ hs => ⟨hs, fun _ hr =>
      hs ▸ List.mem_map_of_mem (List.mem_of_mem_filter hr)⟩) base.2

theorem refundRegistration_upholds {t : Tournament} {registration : TournamentRegistration}
    (h : registration.key ∈ base.1.rowKeys.2) :
    (refundRegistration t registration).Upholds (fun s => s.rowKeys = base.1.rowKeys)
      fun _ => True := by
  refine upholds_bind (upholds_of_frames (J := fun keys => keys = base.1.rowKeys)
    (unlockFunds_frames _)) fun _ _ => upholds_perform fun s hs => ⟨?_, trivial⟩
  rw [← hs] at h ⊢
  have hkeys : (s.registrations.save { registration with status := .WITHDRAWN }).rows.map
      TournamentRegistration.key = s.registrations.rows.map TournamentRegistration.key :=
    keys_save h
  exact Prod.ext rfl hkeys

theorem cancelTournament_linked (tournamentId : String) (now : Int) :
    (Linked.cancelTournament tournamentId now).Upholds (Still base) fun _ => True := by
  refine upholds_withTournament fun t ht => ?_
  refine upholds_bind (R := fun _ => True) (upholds_require fun _ => trivial) fun _ _ => ?_
  refine upholds_after (getEscrow_frames _ _) fun escrow => ?_
  refine upholds_after (refundEscrow_frames _) fun _ => ?_
  refine upholds_bind (findRegistrations_upholds _) fun registrations hstored => ?_
  refine upholds_bind (upholds_beside (upholds_each fun r hr =>
    refundRegistration_upholds (hstored r hr)) base.2) fun _ _ => ?_
  exact saveTournament_linked ht rfl

/-- The call enters somebody. -/
def Call.enters : Call → Bool
  | .joinMatch _ | .registerPlayer _ => true
  | _ => false

/-- All other calls keep the rows, and save what they save. -/
theorem linked_upholds {call : Call} (h : call.enters = false) :
    call.linked.Upholds (Still base) fun _ => True := by
  -- A call that does not save a match or a tournament only has to keep the keys.
  have hdiscard : ∀ {γ : Type} {p : Service γ}, p.Frames Db.rowKeys →
      ((discard p).beside : LinkedService Unit).Upholds (Still base) fun _ => True :=
    fun hp => upholds_frames (frames_bind hp fun _ => trivial)
  cases call with
  | joinMatch request => exact nomatch h
  | registerPlayer request => exact nomatch h
  | createWallet request => exact hdiscard (createWallet_frames _)
  | deposit request => exact hdiscard (deposit_frames _)
  | withdraw request => exact hdiscard (withdraw_frames _)
  | createMatch request => exact hdiscard (createMatch_rowKeys _)
  | startMatch matchId now => exact startMatch_linked matchId now
  | submitResult request => exact submitResult_linked request
  | cancelMatch matchId now => exact cancelMatch_linked matchId now
  | createTournament request => exact hdiscard (createTournament_rowKeys _)
  | openRegistration tournamentId => exact openRegistration_linked tournamentId
  | closeRegistration tournamentId => exact closeRegistration_linked tournamentId
  | generateBracket request => exact generateBracket_linked request
  | startTournament request => exact startTournament_linked request
  | advanceRound request => exact advanceRound_linked request
  | cancelTournament tournamentId now => exact cancelTournament_linked tournamentId now
  | createEscrow request => exact hdiscard (createEscrow_frames _)
  | depositToEscrow request => exact hdiscard (depositToEscrow_frames _)
  | lockEscrow escrowId => exact hdiscard (lockEscrow_frames _)
  | releaseEscrow request => exact hdiscard (releaseEscrow_frames _)
  | refundEscrow request => exact hdiscard (refundEscrow_frames _)
  | closeEscrow escrowId => exact hdiscard (closeEscrow_frames _)
  | lockFunds request => exact hdiscard (lockFunds_frames _)
  | unlockFunds request => exact hdiscard (unlockFunds_frames _)
  | deductEntryFee playerId amount => exact hdiscard (deductEntryFee_frames _ _)

end Upholding

/-! ### Entering -/

section Entering

variable {α : Type} {db : Db} {s : Linked} {entry : Entry Unit} {wallet : PlayerWallet}

/-- The player has the money, and the escrow takes it. -/
def Db.pays (db : Db) (entry : Entry Unit) : Prop :=
  ∃ wallet escrow, EntryPaid db entry wallet escrow ∧ 0 ≤ wallet.lockedBalance

/-- The fee that was locked is there to be deducted. -/
theorem enterBody_locked (hfind : db.wallets.findOne entry.playerId = some wallet) :
    (enterBody entry wallet).Ensures False (db.afterLock entry wallet) fun r _ =>
      ∀ a, r = .ok a → 0 ≤ wallet.lockedBalance := by
  refine ensures_bind (ensures_mono (getEscrowBySource_ensures entry.source _) fun r t ht => ?_)
  obtain ⟨rfl, hr⟩ := ht
  cases r with
  | error e => exact fun _ hno => nomatch hno
  | ok escrow =>
      refine ensures_bind (ensures_mono (depositToEscrow_ensures _ _) fun r t ht => ?_)
      cases r with
      | error e => exact fun _ hno => nomatch hno
      | ok tx =>
          obtain ⟨-, -, -, rfl⟩ := ht
          refine ensures_bind (ensures_mono (deductEntryFee_ensures _ _ _) fun r t ht => ?_)
          cases r with
          | error e => exact fun _ hno => nomatch hno
          | ok _ =>
              -- The lock moved the fee to the locked balance, and the deduction found
              -- at least the fee there.
              obtain ⟨found, hfound, hle, -⟩ := ht
              obtain rfl := Option.some_inj.mp ((findOne_afterLock hfind).symm.trans hfound)
              refine ensures_mono (ensures_trivial _ _) fun _ _ _ _ _ => ?_
              simp only [PlayerWallet.afterLock] at hle
              omega

theorem enterBody_rows (hregister : ∀ w, entry.register w = pure ()) (w : PlayerWallet) :
    (enterBody entry w).Frames rowsView :=
  frames_bind (getEscrow_frames _ _) fun _ => frames_bind (depositToEscrow_frames _) fun _ =>
    frames_bind (deductEntryFee_frames _ _) fun _ => by
      rw [hregister]
      exact trivial

/-- An entry without rows of its own goes through exactly if it is paid. -/
theorem enterBody_payment (hregister : ∀ w, entry.register w = pure ())
    (hfind : db.wallets.findOne entry.playerId = some wallet) :
    (enterBody entry wallet).Ensures False (db.afterLock entry wallet) fun r t =>
      rowsView t = rowsView db ∧ match r with
      | .ok _ => 0 ≤ wallet.lockedBalance ∧ ∃ escrow,
          db.escrows.findOne entry.source = some escrow ∧ escrow.canDeposit = true
      | .error _ => 0 ≤ wallet.lockedBalance → ∀ escrow,
          db.escrows.findOne entry.source = some escrow → escrow.canDeposit = false := by
  have hrows := ensures_of_frames (C := False) (enterBody_rows hregister wallet)
    (db.afterLock entry wallet)
  by_cases hlocked : 0 ≤ wallet.lockedBalance
  · -- The calm entry says what happens, as nothing is registered.
    have hnothing : ∀ w u, ∃ a, (entry.register w).eval u = (.ok a, u) := by
      intro w u
      rw [hregister]
      exact ⟨(), rfl⟩
    have hcalm := enterBody_calm hfind hlocked hnothing
    refine ensures_mono (ensures_and hrows hcalm) fun r t ht => ⟨ht.1, ?_⟩
    cases r with
    | ok _ =>
        obtain ⟨escrow, hescrow, hcan, -⟩ := ht.2
        exact ⟨hlocked, escrow, hescrow, hcan⟩
    | error e => exact fun _ => ht.2.2
  · -- With a negative locked balance no entry goes through.
    refine ensures_mono (ensures_and hrows (enterBody_locked hfind)) fun r t ht => ⟨ht.1, ?_⟩
    cases r with
    | ok a => exact absurd (ht.2 a rfl) hlocked
    | error e => exact fun hno => absurd hno hlocked

/-- What the rows of an entry come to: the parent is not saved. -/
def Rejects (base : Db) (register : PlayerWallet → LinkedService Unit) (source : SourceId) : Prop :=
  ∀ w u, rowsView u.1 = rowsView base →
    (register w).Ensures False u fun r t => (∃ e, r = .error e) ∧ t.2 = u.2 ++ [source]

/-- Handing the fee back is about wallets. -/
theorem rollbackEntry_linked (entry : Entry Unit) (error : ServiceError) (u : Linked) :
    ((rollbackEntry entry error).beside : LinkedService Unit).Ensures False u fun _ v =>
      rowsView v.1 = rowsView u.1 ∧ v.2 = u.2 := by
  have hframes : (rollbackEntry entry error).Frames rowsView := rollbackEntry_frames entry error
  exact ensures_beside (ensures_mono (ensures_of_frames hframes u.1) fun _ _ hrows => ⟨hrows, rfl⟩)

/-- Whoever pays gets a row, and the parent is not saved. Whoever does not pay
    gets nothing. -/
theorem enter_linked {register : PlayerWallet → LinkedService Unit}
    (hentry : ∀ w, entry.register w = pure ()) (hregister : Rejects s.1 register entry.source) :
    (Linked.enter entry register).Ensures False s fun r t => (∃ e, r = .error e) ∧
      (s.1.pays entry → t.2 = s.2 ++ [entry.source]) ∧ (¬s.1.pays entry → Still s t) := by
  have hstill : ∀ t : Linked, rowsView t.1 = rowsView s.1 → t.2 = s.2 → Still s t :=
    fun t hrows hsame => ⟨ReadsRows.congr hrows, hsame⟩
  have hframes : (lockEntry entry).Frames rowsView := lockEntry_frames entry
  refine ensures_bind (ensures_beside (ensures_mono (ensures_and (ensures_and
    (lockEntry_ensures entry s.1) (lockEntry_refused entry s.1))
    (ensures_of_frames hframes s.1)) fun r t ht => ?_))
  obtain ⟨⟨hlock, hrefused⟩, hrows⟩ := ht
  cases r with
  | error e =>
      -- The fee is not paid. The roll-back brings back what was locked.
      -- Nobody pays who cannot lock the fee.
      refine ⟨⟨e, rfl⟩, fun hpays => ?_, fun _ => hstill (t, s.2) hrows rfl⟩
      obtain ⟨wallet, escrow, hpaid, -⟩ := hpays
      rcases hrefused e rfl with hfalse | hno
      · exact hfalse.elim
      · exact nomatch (hno wallet hpaid.findWallet).symm.trans hpaid.canLock
  | ok wallet =>
      obtain ⟨hfind, hcan, rfl⟩ := hlock
      refine ensures_onError (ensures_bind (ensures_beside (ensures_mono
        (enterBody_payment hentry hfind) fun r u hu => ?_)))
      obtain ⟨hrows, hend⟩ := hu
      cases r with
      | ok _ =>
          -- The fee is paid and its row written. Then saving the parent is refused.
          obtain ⟨hlocked, escrow, hescrow, hdeposit⟩ := hend
          have hpays : s.1.pays entry :=
            ⟨wallet, escrow, ⟨hfind, hcan, hescrow, hdeposit⟩, hlocked⟩
          refine ensures_mono (hregister wallet (u, s.2) hrows) fun r t ht => ?_
          obtain ⟨⟨e, rfl⟩, hrejected⟩ := ht
          refine ensures_mono (rollbackEntry_linked entry e t) fun r v hv => ?_
          have hend := hv.2.trans hrejected
          cases r with
          | ok _ => exact ⟨⟨e, rfl⟩, fun _ => hend, fun hno => absurd hpays hno⟩
          | error e' => exact ⟨⟨e', rfl⟩, fun _ => hend, fun hno => absurd hpays hno⟩
      | error e =>
          have hnot : ¬s.1.pays entry := by
            rintro ⟨wallet', escrow, hpaid, hlocked⟩
            obtain rfl := Option.some_inj.mp (hfind.symm.trans hpaid.findWallet)
            exact nomatch (hend hlocked escrow hpaid.findEscrow).symm.trans hpaid.canDeposit
          refine ensures_mono (rollbackEntry_linked entry e (u, s.2)) fun r v hv => ?_
          have hsame := hstill v (hv.1.trans hrows) hv.2
          cases r with
          | ok _ => exact ⟨⟨e, rfl⟩, fun hpays => absurd hpays hnot, fun _ => hsame⟩
          | error e' => exact ⟨⟨e', rfl⟩, fun hpays => absurd hpays hnot, fun _ => hsame⟩

theorem covers_of_missing {V K : Type} [DecidableEq K] {key : V → K} {stored loaded : List V}
    {v : V} (hv : v ∈ stored) (hmissing : key v ∉ loaded.map key) :
    covers key stored loaded = false := by
  rw [← Bool.not_eq_true, covers_iff]
  exact fun hall => hmissing (hall v hv)

/-- The new participant would be detached from the match as it was read. -/
theorem registerParticipant_rejects {m : LoadedMatch} {request : JoinMatchRequest}
    (hread : m.participants = db.participants.find fun p => p.matchId = m.matchId)
    (hnew : db.participants.findOne (m.matchId, request.playerId) = none) :
    Rejects db (Linked.registerParticipant m request) m.source := by
  intro w u hrows
  have hparticipants : u.1.participants = db.participants := congrArg (fun rows => rows.2.1) hrows
  refine ensures_bind (ensures_beside (ensures_perform ?_ fun hno => hno.elim))
  refine ensures_bind (ensures_perform ?_ fun hno => hno.elim)
  -- The new row is in the table and not among those that were loaded with the match.
  have hdetaches : covers MatchParticipant.key
      ((u.1.participants.save (newParticipant m request w)).find fun p =>
        p.matchId = (afterJoin m).matchId) m.participants = false := by
    refine covers_of_missing (v := newParticipant m request w) ?_ fun hmem => ?_
    · exact List.mem_filter.mpr ⟨Table.mem_save.mpr (Or.inl rfl), decide_eq_true rfl⟩
    · rw [hread] at hmem
      obtain ⟨p, hp, hkey⟩ := List.mem_map.mp hmem
      exact Table.findOne_eq_none_iff.mp hnew p (List.mem_of_mem_filter hp) hkey
  simp only [hdetaches, Bool.false_eq_true, if_false]
  exact ⟨⟨_, rfl⟩, rfl⟩

theorem registerRegistration_rejects {t : LoadedTournament} {request : RegisterPlayerRequest}
    (hread : t.registrations = db.registrations.find fun r => r.tournamentId = t.tournamentId)
    (hnew : db.registrations.findOne (t.tournamentId, request.playerId) = none) :
    Rejects db (Linked.registerRegistration t request) t.source := by
  intro w u hrows
  have hregistrations : u.1.registrations = db.registrations :=
    congrArg (fun rows => rows.2.2.2) hrows
  refine ensures_bind (ensures_beside (ensures_perform ?_ fun hno => hno.elim))
  refine ensures_bind (ensures_perform ?_ fun hno => hno.elim)
  -- The new row is in the table and not among those that were loaded.
  have hdetaches : covers TournamentRegistration.key
      ((u.1.registrations.save (newRegistration t request w)).find fun r =>
        r.tournamentId = (afterRegistration t).tournamentId) t.registrations = false := by
    refine covers_of_missing (v := newRegistration t request w) ?_ fun hmem => ?_
    · exact List.mem_filter.mpr ⟨Table.mem_save.mpr (Or.inl rfl), decide_eq_true rfl⟩
    · rw [hread] at hmem
      obtain ⟨r, hr, hkey⟩ := List.mem_map.mp hmem
      exact Table.findOne_eq_none_iff.mp hnew r (List.mem_of_mem_filter hr) hkey
  simp only [hdetaches, Bool.false_eq_true, if_false]
  exact ⟨⟨_, rfl⟩, rfl⟩

theorem loadedMatch_of_read {m : LoadedMatch} {matchId : String} (hkey : m.matchId = matchId)
    (hread : m.participants = db.participants.find fun p => p.matchId = matchId) :
    db.loadedMatch m.toMatch = m := by
  rcases m with ⟨row, participants⟩
  simp only at hkey hread
  rw [Db.loadedMatch, hread, hkey]

theorem loaded_of_read {t : LoadedTournament} {tournamentId : String}
    (hkey : t.tournamentId = tournamentId)
    (hread : t.registrations = db.registrations.find fun r => r.tournamentId = tournamentId) :
    db.loaded t.toTournament = t := by
  rcases t with ⟨row, registrations⟩
  simp only at hkey hread
  rw [Db.loaded, hread, hkey]

/-- Whoever may join a match gets through the checks. -/
theorem checkJoin_refused (request : JoinMatchRequest) (db : Db) :
    (checkJoin request).Ensures False db fun r _ => ∀ e, r = .error e → ∀ m,
      db.matchRows.findOne request.matchId = some m → (db.loadedMatch m).isJoinable = true →
        db.participants.findOne (m.matchId, request.playerId) ≠ none := by
  refine ensures_bind (getMatchById_calm
    (fun _ hnone _ _ m hm => nomatch hnone.symm.trans hm) fun m hfind hread => ?_)
  have hloaded := loadedMatch_of_read (Table.key_of_findOne hfind) hread
  have hfound : ∀ row, db.matchRows.findOne request.matchId = some row → row = m.toMatch :=
    fun row hrow => Option.some_inj.mp (hrow.symm.trans hfind)
  refine ensures_bind (ensures_require (fun _ => ?_) fun hno => ?_)
  · -- A joinable match refuses only those who are in it.
    refine ensures_bind (ensures_perform ?_ fun hno => hno.elim)
    refine ensures_bind (ensures_require (fun _ => fun _ hno => nomatch hno) fun hno => ?_)
    rintro _ - row hrow - hnone
    rw [hfound row hrow] at hnone
    rw [hnone] at hno
    exact nomatch hno
  · rintro _ - row hrow hjoin
    rw [hfound row hrow, hloaded] at hjoin
    exact nomatch hno.symm.trans hjoin

theorem checkRegistration_refused (request : RegisterPlayerRequest) (db : Db) :
    (checkRegistration request).Ensures False db fun r _ => ∀ e, r = .error e → ∀ t,
      db.tournaments.findOne request.tournamentId = some t →
        (db.loaded t).isRegistrationOpen request.now = true →
          db.registrations.findOne (t.tournamentId, request.playerId) ≠ none := by
  refine ensures_bind (getTournamentById_calm
    (fun _ hnone _ _ t ht => nomatch hnone.symm.trans ht) fun t hfind hread => ?_)
  have hloaded := loaded_of_read (Table.key_of_findOne hfind) hread
  have hfound : ∀ row, db.tournaments.findOne request.tournamentId = some row →
      row = t.toTournament :=
    fun row hrow => Option.some_inj.mp (hrow.symm.trans hfind)
  refine ensures_bind (ensures_require (fun _ => ?_) fun hno => ?_)
  · -- An open registration refuses only those who are registered.
    refine ensures_bind (ensures_perform ?_ fun hno => hno.elim)
    refine ensures_bind (ensures_require (fun _ => fun _ hno => nomatch hno) fun hno => ?_)
    rintro _ - row hrow - hnone
    rw [hfound row hrow] at hnone
    rw [hnone] at hno
    exact nomatch hno
  · rintro _ - row hrow hopen
    rw [hfound row hrow, hloaded] at hopen
    exact nomatch hno.symm.trans hopen

/-- The player is let in: the checks are met and the fee can be paid. -/
def Db.admits (db : Db) (call : Call) : Prop :=
  match call with
  -- Past the checks and able to pay.
  | .joinMatch request => ∃ m, db.matchRows.findOne request.matchId = some m ∧
      (db.loadedMatch m).isJoinable = true ∧
      db.participants.findOne (m.matchId, request.playerId) = none ∧
      db.pays (Linked.payment (joinEntry request (db.loadedMatch m)))
  | .registerPlayer request => ∃ t, db.tournaments.findOne request.tournamentId = some t ∧
      (db.loaded t).isRegistrationOpen request.now = true ∧
      db.registrations.findOne (t.tournamentId, request.playerId) = none ∧
      db.pays (Linked.payment (registrationEntry request (db.loaded t)))
  | _ => False

/-- What comes of a call that enters somebody. -/
def ComesTo (call : Call) (s : Linked) (r : Except ServiceError Unit) (t : Linked) : Prop :=
  (∃ e, r = .error e) ∧ (s.1.admits call → ∃ source, t.2 = s.2 ++ [source]) ∧
    (¬s.1.admits call → Still s t)

theorem joinMatch_linked (request : JoinMatchRequest) (s : Linked) :
    (Linked.joinMatch request).Ensures False s (ComesTo (.joinMatch request) s) := by
  refine ensures_bind (ensures_beside (ensures_mono (ensures_and (checkJoin_ensures request s.1)
    (checkJoin_refused request s.1)) fun r t ht => ?_))
  obtain ⟨⟨rfl, hm⟩, hrefused⟩ := ht
  cases r with
  | error e =>
      refine ⟨⟨e, rfl⟩, ?_, fun _ => ⟨rfl, rfl⟩⟩
      rintro ⟨m, hfind, hjoin, hnew, -⟩
      exact absurd hnew (hrefused e rfl m hfind hjoin)
  | ok m =>
      obtain ⟨hfind, hread, hjoin, hnew⟩ := hm m rfl
      have hkey : m.matchId = request.matchId := Table.key_of_findOne hfind
      have hloaded := loadedMatch_of_read hkey hread
      -- The checks are met, so it is the payment that decides.
      have hadmits : s.1.admits (.joinMatch request) ↔
          s.1.pays (Linked.payment (joinEntry request m)) := by
        constructor
        · rintro ⟨row, hrow, -, -, hpays⟩
          obtain rfl := Option.some_inj.mp (hrow.symm.trans hfind)
          rwa [hloaded] at hpays
        · intro hpays
          refine ⟨m.toMatch, hfind, ?_, hnew, ?_⟩ <;> rw [hloaded]
          · exact hjoin
          · exact hpays
      have hrejects := registerParticipant_rejects (hkey ▸ hread) hnew
      refine ensures_mono (enter_linked (s := s) (fun _ => rfl) hrejects) fun r t ht => ?_
      refine ⟨ht.1, fun hin => ⟨_, ht.2.1 (hadmits.mp hin)⟩, fun hout => ht.2.2 ?_⟩
      exact fun hpays => hout (hadmits.mpr hpays)

theorem registerPlayer_linked (request : RegisterPlayerRequest) (s : Linked) :
    (Linked.registerPlayer request).Ensures False s (ComesTo (.registerPlayer request) s) := by
  refine ensures_bind (ensures_beside (ensures_mono (ensures_and
    (checkRegistration_ensures request s.1) (checkRegistration_refused request s.1))
    fun r u hu => ?_))
  obtain ⟨⟨rfl, ht⟩, hrefused⟩ := hu
  cases r with
  | error e =>
      refine ⟨⟨e, rfl⟩, ?_, fun _ => ⟨rfl, rfl⟩⟩
      rintro ⟨t, hfind, hopen, hnew, -⟩
      exact absurd hnew (hrefused e rfl t hfind hopen)
  | ok t =>
      obtain ⟨hfind, hread, hopen, hnew⟩ := ht t rfl
      have hkey : t.tournamentId = request.tournamentId := Table.key_of_findOne hfind
      have hloaded := loaded_of_read hkey hread
      -- The checks are met, so it is the payment that decides.
      have hadmits : s.1.admits (.registerPlayer request) ↔
          s.1.pays (Linked.payment (registrationEntry request t)) := by
        constructor
        · rintro ⟨row, hrow, -, -, hpays⟩
          obtain rfl := Option.some_inj.mp (hrow.symm.trans hfind)
          rwa [hloaded] at hpays
        · intro hpays
          refine ⟨t.toTournament, hfind, ?_, hnew, ?_⟩ <;> rw [hloaded]
          · exact hopen
          · exact hpays
      have hrejects := registerRegistration_rejects (hkey ▸ hread) hnew
      refine ensures_mono (enter_linked (s := s) (fun _ => rfl) hrejects) fun r u hu => ?_
      refine ⟨hu.1, fun hin => ⟨_, hu.2.1 (hadmits.mp hin)⟩, fun hout => hu.2.2 ?_⟩
      exact fun hpays => hout (hadmits.mpr hpays)

end Entering

/-! ### Runs -/

/-- The participant a call stores. -/
def Call.participant : Call → Option (String × String)
  | .joinMatch request => some (request.matchId, request.playerId)
  | _ => none

/-- The registration a call adds, if it is one that does. -/
def Call.registration : Call → Option (String × String)
  | .registerPlayer request => some (request.tournamentId, request.playerId)
  | _ => none

/-- The calls of a run that succeed. -/
def successes (calls : List Call) (s : Linked) : List Call :=
  ((answers linkedStep calls s).filter fun answer => answer.2.isOk).map Prod.fst

/-- No save was rejected, and the rows are those there were and those of the
    calls that succeeded. -/
structure Attached (calls : List Call) (s : Linked) : Prop where
  rejected : (after linkedStep calls s).2 = s.2
  participants : ∀ key, key ∈ (after linkedStep calls s).1.rowKeys.1 ↔
    key ∈ s.1.rowKeys.1 ∨ ∃ call ∈ successes calls s, call.participant = some key
  registrations : ∀ key, key ∈ (after linkedStep calls s).1.rowKeys.2 ↔
    key ∈ s.1.rowKeys.2 ∨ ∃ call ∈ successes calls s, call.registration = some key

/-- So it is all along, and rows that are there at some point stay. -/
def StayAttached (calls : List Call) (s : Linked) : Prop :=
  ∀ before later, calls = before ++ later → Attached before s ∧
    (after linkedStep before s).1.rowKeys.1 ⊆ (after linkedStep calls s).1.rowKeys.1 ∧
    (after linkedStep before s).1.rowKeys.2 ⊆ (after linkedStep calls s).1.rowKeys.2

section Runs

variable {call : Call} {calls : List Call} {s : Linked}

/-- What a step comes to: if it lets somebody in, a save is rejected, and if it
    does not, all is as it was, and no entry succeeds. -/
theorem linkedStep_cases (call : Call) (s : Linked) :
    (s.1.admits call ∧ (linkedStep s call).2.2 ≠ s.2) ∨
      (¬s.1.admits call ∧ Still s (linkedStep s call).2 ∧
        (call.enters = true → (linkedStep s call).1.isOk = false)) := by
  have hentry : ∀ {r : Except ServiceError Unit} {t : Linked}, ComesTo call s r t →
      (s.1.admits call ∧ t.2 ≠ s.2) ∨ (¬s.1.admits call ∧ Still s t ∧
        (call.enters = true → r.isOk = false)) := by
    rintro r t ⟨⟨e, rfl⟩, hin, hout⟩
    by_cases hadmits : s.1.admits call
    · obtain ⟨source, hrejected⟩ := hin hadmits
      refine Or.inl ⟨hadmits, ?_⟩
      rw [hrejected]
      simp
    · exact Or.inr ⟨hadmits, hout hadmits, fun _ => rfl⟩
  cases henters : call.enters with
  | true =>
      cases call with
      | joinMatch request =>
          rw [← henters]
          exact hentry ((ensures_false_iff ..).mp (joinMatch_linked request s))
      | registerPlayer request =>
          rw [← henters]
          exact hentry ((ensures_false_iff ..).mp (registerPlayer_linked request s))
      | _ => exact nomatch henters
  | false =>
      -- Only joining and registering let somebody in.
      have hnot : ¬s.1.admits call := by
        cases call with
        | joinMatch request => exact nomatch henters
        | registerPlayer request => exact nomatch henters
        | _ => exact id
      have hstill := (ensures_false_iff ..).mp
        (ensures_of_upholds (linked_upholds henters) (show Still s s from ⟨rfl, rfl⟩))
      exact Or.inr ⟨hnot, hstill.1, fun hno => nomatch hno⟩

theorem mem_successes_cons {c : Call} : c ∈ successes (call :: calls) s ↔
    c = call ∧ (linkedStep s call).1.isOk = true ∨
      c ∈ successes calls (linkedStep s call).2 := by
  rw [successes, answers, List.filter_cons]
  by_cases hok : (linkedStep s call).1.isOk = true
  · rw [if_pos hok, List.map_cons, List.mem_cons, and_iff_left hok]
    rfl
  · rw [if_neg hok, or_iff_right fun h => hok h.2]
    rfl

/-- A run in which nobody is let in changes no rows, and no entry succeeds. -/
theorem still_after (h : Along linkedStep (fun call s _ _ => ¬s.1.admits call) calls s) :
    Still s (after linkedStep calls s) ∧ ∀ call ∈ successes calls s, call.enters = false := by
  -- Each call leaves the keys and the rejections as they were.
  induction calls generalizing s with
  | nil => exact ⟨⟨rfl, rfl⟩, fun c hc => absurd hc List.not_mem_nil⟩
  | cons call calls ih =>
      obtain ⟨hstill, hnone⟩ := ih h.2
      rcases linkedStep_cases call s with ⟨hadmits, -⟩ | ⟨-, hone, hentry⟩
      · exact absurd hadmits h.1
      · rw [after_cons]
        refine ⟨⟨hstill.1.trans hone.1, hstill.2.trans hone.2⟩, fun c hc => ?_⟩
        rcases mem_successes_cons.mp hc with ⟨rfl, hok⟩ | hc
        · rw [← Bool.not_eq_true]
          exact fun henters => nomatch (hentry henters).symm.trans hok
        · exact hnone c hc

/-- A run in which nobody is let in leaves all rows as they are. -/
theorem attached_of_along (h : Along linkedStep (fun call s _ _ => ¬s.1.admits call) calls s) :
    Attached calls s := by
  obtain ⟨hstill, hnone⟩ := still_after h
  -- No call of the run enters, so none adds a key.
  have hrows : ∀ (f : Call → Option (String × String)) (stored : Prop) (key : String × String),
      (∀ call, call.enters = false → f call = none) →
      (stored ↔ stored ∨ ∃ call ∈ successes calls s, f call = some key) := by
    intro f stored key hf
    refine ⟨Or.inl, ?_⟩
    rintro (hstored | ⟨call, hcall, hkey⟩)
    · exact hstored
    · exact nomatch (hf call (hnone call hcall)).symm.trans hkey
  exact {
    rejected := hstill.2
    participants := fun key => by
      rw [hstill.1]
      exact hrows _ _ key fun call hcall => by cases call <;> first | rfl | exact nomatch hcall
    registrations := fun key => by
      rw [hstill.1]
      exact hrows _ _ key fun call hcall => by cases call <;> first | rfl | exact nomatch hcall }

/-- Rows stay attached in a run exactly when it lets nobody in. -/
theorem stayAttached_iff (calls : List Call) (s : Linked) : StayAttached calls s ↔
    Along linkedStep (fun call s _ _ => ¬s.1.admits call) calls s := by
  constructor
  · intro h
    have hrejected : ∀ before later, calls = before ++ later →
        (after linkedStep before s).2 = s.2 := fun before later hsplit =>
      (h before later hsplit).1.rejected
    clear h
    induction calls generalizing s with
    | nil => exact trivial
    | cons call calls ih =>
        -- Of the run with one call, which has rejected nothing.
        have hone : (linkedStep s call).2.2 = s.2 := hrejected [call] calls rfl
        refine ⟨?_, ih _ fun before later hsplit => ?_⟩
        · rcases linkedStep_cases call s with ⟨-, hne⟩ | ⟨hnot, -⟩
          · exact absurd hone hne
          · exact hnot
        · exact (hrejected (call :: before) later (congrArg _ hsplit)).trans hone.symm
  · rintro h before later rfl
    rw [along_append] at h
    obtain ⟨hstill, -⟩ := still_after h.2
    rw [after_append]
    refine ⟨attached_of_along h.1, ?_, ?_⟩ <;> rw [hstill.1]
    · exact List.Subset.refl _
    · exact List.Subset.refl _

/-- The first player who joins a match is stored, but not the match. -/
theorem not_stayAttached : ¬ ∀ calls, StayAttached calls (Db.empty, []) := by
  intro h
  have hrejected := (h (fundPlayers ["a"] 5000000 ++
    [.createMatch { hex := "m", entryFee := 1000000 },
     .joinMatch { matchId := "m", playerId := "a" }]) _ [] (List.append_nil _).symm).1.rejected
  revert hrejected
  decide +kernel

end Runs

end Esports

end SvmCourse
