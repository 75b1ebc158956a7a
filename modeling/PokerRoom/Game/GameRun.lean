import PokerRoom.Application.GameCommands
import PokerRoom.Hand.RoundRun

/-!
# The run of a game

The commands on a game and on its rounds as a machine on the rows of the game.  `game_step_cases`
lists what an accepted command does.
-/

namespace PokerRoom

open Foundation

/-! ## The machine -/

/-- Why a command on a missing round is rejected: a bet has its word checked first. -/
def RoundCommand.roundMissing : RoundCommand → Rejection
  | .betting (.placeBet data _) =>
    if BetAction.ofValue? (upper data.action) = none then
      .domain ⟨.illegalAction, ErrorMessage.invalidAction.value ++ ": " ++ data.action⟩
    else notFound .roundNotFound
  | _ => notFound .roundNotFound

/-- Carry out a command on one round of a game. -/
def GameTables.onRound (g : GameTables) (roundId : String) (c : RoundCommand) (clock : Clock) :
    Except Rejection GameTables :=
  match g.rounds.find? fun r => r.round.roundId = roundId with
  | none => .error c.roundMissing
  | some r =>
    match c with
    | .resolveHand data ids => g.resolveHand r data ids clock
    | .declareWinner data ids => g.declareWinner r data ids clock
    | c => do
      let r' ← roundMachine.step r c
      (g.putRound r').flush

/-- The commands on a game, with the identifiers drawn and the readings of the clock taken for
them. -/
inductive GameCommand
  /-- Start a round. -/
  | startRound (data : StartRoundRequest) (roundId : String) (ids : Uuids)
  /-- A command on a round. -/
  | round (roundId : String) (c : RoundCommand) (clock : Clock)
  /-- Raise the blind level. -/
  | advanceBlinds (now : Int)
  /-- Pause the table. -/
  | pauseTable
  /-- Resume the table. -/
  | resumeTable
  /-- Count a completed hand. -/
  | recordHandCompleted (clock : Clock)
  /-- End the game. -/
  | endGame (finished : Except Rejection Unit)

/-- The commands on one game. -/
def gameMachine : Machine GameTables GameCommand Rejection where
  step g
    | .startRound data roundId ids => g.startRound data roundId ids
    | .round roundId c clock => g.onRound roundId c clock
    | .advanceBlinds now => g.advanceBlinds now
    | .pauseTable => g.pauseTable
    | .resumeTable => g.resumeTable
    | .recordHandCompleted clock => g.recordHandCompleted clock
    | .endGame finished => g.endGame finished

/-- The round a command settles and the settlement it asks for, if it asks for one. -/
def GameCommand.settlement? (c : GameCommand) (g : GameTables) :
    Option (RoundTables × ResolveHandRequest × Uuids) :=
  match c with
  | .round roundId c _ =>
    (g.rounds.find? fun r => r.round.roundId = roundId).bind fun r => (c.settlement? r).map (r, ·)
  | _ => none

/-- The command concerns the table and none of its rounds. -/
def GameCommand.IsAdministrative : GameCommand → Prop
  | .startRound _ _ _ | .round _ _ _ => False
  | _ => True

/-- What an accepted command does. -/
inductive GameStep (g : GameTables) : GameCommand → GameTables → Prop
  /-- A round is started. -/
  | started {data : StartRoundRequest} {roundId : String} {ids : Uuids} {level : BlindLevelConfig}
    {r : RoundTables} (hstatus : g.game.status = .active)
    (hnone : ∀ r ∈ g.rounds, r.round.status ≠ .active) (hlevel : g.roundLevel = some level)
    (hdeal : createRound (g.roundSetup level roundId) ids = .ok r) :
    GameStep g (.startRound data roundId ids) { g with rounds := g.rounds ++ [r] }
  /-- A round is played on or corrected. -/
  | acted {roundId : String} {c : RoundCommand} {clock : Clock} {r r' : RoundTables}
    (hfind : (g.rounds.find? fun r => r.round.roundId = roundId) = some r)
    (hc : c.settlement? r = none) (hstep : roundMachine.step r c = .ok r') :
    GameStep g (.round roundId c clock) (g.putRound r')
  /-- A round is settled. -/
  | settled {roundId : String} {c : RoundCommand} {clock : Clock} {r r' : RoundTables}
    {data : ResolveHandRequest} {ids : Uuids}
    (hc : (GameCommand.round roundId c clock).settlement? g = some (r, data, ids))
    (hset : Settled r data ids r') :
    GameStep g (.round roundId c clock) (g.settled r r' clock)
  /-- Only the row of the game is written; a game that is not over was not over before. -/
  | administered {c : GameCommand} {game : Game} (hc : c.IsAdministrative)
    (hstatus : game.status ≠ .finished → g.game.status ≠ .finished) :
    GameStep g c { g with game := game }

/-- A round of the game that carries an identifier. -/
lemma find?_roundId {g : GameTables} {roundId : String} {r : RoundTables}
    (h : (g.rounds.find? fun r => r.round.roundId = roundId) = some r) :
    r ∈ g.rounds ∧ r.round.roundId = roundId :=
  ⟨List.mem_of_find?_eq_some h, by simpa using List.find?_some h⟩

/-- An accepted start of a round. -/
lemma startRound_cases {g g' : GameTables} {data : StartRoundRequest} {roundId : String}
    {ids : Uuids} (h : g.startRound data roundId ids = .ok g') :
    GameStep g (.startRound data roundId ids) g' ∧ g'.Constraints := by
  simp only [GameTables.startRound, bind_eq_ok_iff, require_eq_ok_iff] at h
  obtain ⟨-, hstatus, existing, hactive, -, rfl, h⟩ := h
  rw [activeRound_eq_scalarOneOrNone, scalarOneOrNone_eq_none_iff,
    List.filter_eq_nil_iff] at hactive
  have hnone : ∀ r ∈ g.rounds, r.round.status ≠ .active := fun r hr => by simpa using hactive r hr
  split at h
  · cases h
  · next level hlevel =>
    simp only [bind_eq_ok_iff, GameTables.flush_eq_ok_iff] at h
    obtain ⟨-, -, r, hdeal, hcons, rfl⟩ := h
    exact ⟨.started hstatus hnone hlevel hdeal, hcons⟩

/-- An accepted settlement of a round. -/
lemma resolveHand_cases {g g' : GameTables} {r : RoundTables} {data : ResolveHandRequest}
    {ids : Uuids} {clock : Clock} (h : g.resolveHand r data ids clock = .ok g') :
    ∃ r', Settled r data ids r' ∧ g' = g.settled r r' clock ∧ g'.Constraints := by
  obtain ⟨r', hset, hflush⟩ := bind_eq_ok_iff.mp h
  obtain ⟨hcons, rfl⟩ := GameTables.flush_eq_ok_iff.mp hflush
  exact ⟨r', settleRound_eq_ok_iff.mp hset, rfl, hcons⟩

/-- An accepted command on a round. -/
lemma onRound_cases {g g' : GameTables} {roundId : String} {c : RoundCommand} {clock : Clock}
    (h : g.onRound roundId c clock = .ok g') :
    GameStep g (.round roundId c clock) g' ∧ g'.Constraints := by
  unfold GameTables.onRound at h
  split at h
  · cases h
  · next r hfind =>
    have hact : ∀ {c : RoundCommand}, c.settlement? r = none →
        (do let r' ← roundMachine.step r c; (g.putRound r').flush) = .ok g' →
        GameStep g (.round roundId c clock) g' ∧ g'.Constraints := by
      intro c hc h
      obtain ⟨r', hstep, hflush⟩ := bind_eq_ok_iff.mp h
      obtain ⟨hcons, rfl⟩ := GameTables.flush_eq_ok_iff.mp hflush
      exact ⟨.acted hfind hc hstep, hcons⟩
    cases c with
    | resolveHand data ids =>
      obtain ⟨r', hset, rfl, hcons⟩ := resolveHand_cases h
      exact ⟨.settled (by simp [GameCommand.settlement?, RoundCommand.settlement?, hfind]) hset,
        hcons⟩
    | declareWinner data ids =>
      obtain ⟨request, hrequest, h⟩ := bind_eq_ok_iff.mp h
      obtain ⟨r', hset, rfl, hcons⟩ := resolveHand_cases h
      have hc : (GameCommand.round roundId (.declareWinner data ids) clock).settlement? g =
          some (r, request, ids) := by
        simp [GameCommand.settlement?, RoundCommand.settlement?, hfind, hrequest, Except.toOption]
      exact ⟨.settled hc hset, hcons⟩
    | betting c => exact hact rfl h
    | reverseAction data ids => exact hact rfl h
    | adjustStack data ids => exact hact rfl h
    | reopenHand data ids => exact hact rfl h
    | correctPayout data ids => exact hact rfl h

/-! ## Moving on -/

/-- Moving on leaves the counters and the blind level alone. -/
@[simp] lemma Game.moveOn_counters (game : Game) (activeSeats : List Int) :
    (game.moveOn activeSeats).handsPlayed = game.handsPlayed ∧
      (game.moveOn activeSeats).handsAtCurrentLevel = game.handsAtCurrentLevel ∧
      (game.moveOn activeSeats).currentBlindLevel = game.currentBlindLevel := by
  unfold Game.moveOn
  split
  · split <;> exact ⟨rfl, rfl, rfl⟩
  · exact ⟨rfl, rfl, rfl⟩

/-- Moving on keeps the game, and a game that is not over afterwards keeps its status. -/
lemma Game.moveOn_game (game : Game) (activeSeats : List Int) :
    (game.moveOn activeSeats).gameId = game.gameId ∧
      (game.moveOn activeSeats).roomId = game.roomId ∧
      ((game.moveOn activeSeats).status = game.status ∨
        (game.moveOn activeSeats).status = .finished) := by
  unfold Game.moveOn
  split
  · split <;> exact ⟨rfl, rfl, Or.inl rfl⟩
  · exact ⟨rfl, rfl, Or.inr rfl⟩

/-! ## Starting a game -/

/-- The positions of a game. -/
def Game.positions (game : Game) : Positions :=
  ⟨game.currentDealerSeat, game.currentSmallBlindSeat, game.currentBigBlindSeat⟩

/-- What an accepted start of a game has passed, and what it does. -/
structure GameStarted (roomConfig : RoomConfig) (g : GameTables) : Prop where
  /-- At least two players take part. -/
  two_le : 2 ≤ roomConfig.activeSeats.length
  /-- The constraints hold afterwards. -/
  constraints : g.Constraints
  /-- The configuration of the room is kept as a snapshot. -/
  snapshot : g.snapshot = saveRoomSnapshot roomConfig
  /-- There is no round. -/
  rounds : g.rounds = []
  /-- The game is played in the room. -/
  room : g.game.roomId = roomConfig.roomId
  /-- The game is active. -/
  status : g.game.status = .active
  /-- The first hand is played on the first level. -/
  level : g.game.currentBlindLevel = 1
  /-- No hand is counted. -/
  handsPlayed : g.game.handsPlayed = 0
  /-- The first positions are taken up. -/
  positions : assignPositions roomConfig.activeSeats roomConfig.startingDealerSeat =
    some g.game.positions

/-- An accepted start of a game. -/
lemma gameStarted_of_startGame {existing : Option Game} {roomConfig : RoomConfig}
    {activated : Except Rejection Unit} {gameId : String} {now : Int} {g : GameTables}
    (h : startGame existing roomConfig activated gameId now = .ok g) :
    GameStarted roomConfig g := by
  simp only [startGame, bind_eq_ok_iff, require_eq_ok_iff] at h
  obtain ⟨-, -, -, -, -, htwo, h⟩ := h
  split at h
  · cases h
  · next positions hpositions =>
    simp only [bind_eq_ok_iff, GameTables.flush_eq_ok_iff] at h
    obtain ⟨-, -, hcons, rfl⟩ := h
    exact ⟨htwo, hcons, rfl, rfl, rfl, rfl, rfl, rfl, hpositions⟩

/-- A game is only started where none is active. -/
lemma existing_of_startGame {existing : Option Game} {roomConfig : RoomConfig}
    {activated : Except Rejection Unit} {gameId : String} {now : Int} {g : GameTables}
    (h : startGame existing roomConfig activated gameId now = .ok g) : existing = none := by
  simp only [startGame, bind_eq_ok_iff, require_eq_ok_iff] at h
  obtain ⟨-, hnone, -⟩ := h
  exact hnone

/-! ## Commands on the table -/

/-- What an accepted command on the table writes to the row of the game. -/
inductive TableStep (g : GameTables) : GameCommand → Game → Prop
  /-- The blind level is raised to the next configured one. -/
  | blindsAdvanced {now : Int} (hstatus : g.game.status = .active)
    (hnext : (g.snapshot.blindLevel (g.game.currentBlindLevel + 1)).isSome) :
    TableStep g (.advanceBlinds now)
      { g.game with currentBlindLevel := g.game.currentBlindLevel + 1, levelStartedAt := now }
  /-- The table is paused. -/
  | paused (hstatus : g.game.status = .active) :
    TableStep g .pauseTable { g.game with status := .paused }
  /-- The table is resumed. -/
  | resumed (hstatus : g.game.status = .paused) :
    TableStep g .resumeTable { g.game with status := .active }
  /-- A completed hand is counted, if fewer hands are counted than rounds are completed. -/
  | handRecorded {clock : Clock} :
    TableStep g (.recordHandCompleted clock)
      ((applyHandCompletion g.game g.snapshot
        (decide (g.game.handsPlayed <
          (g.rounds.filter fun r => r.round.status = .completed).length))
        clock).write g.game)
  /-- The game is ended. -/
  | ended {finished : Except Rejection Unit} :
    TableStep g (.endGame finished) { g.game with status := .finished }

/-- An accepted command on the table does one of these, and the rows it leaves satisfy the
constraints. -/
lemma table_step_cases {g g' : GameTables} {c : GameCommand} (hc : c.IsAdministrative)
    (h : gameMachine.step g c = .ok g') :
    ∃ game, TableStep g c game ∧ g' = { g with game := game } ∧ g'.Constraints := by
  cases c with
  | startRound | round => cases hc
  | advanceBlinds now =>
    simp only [gameMachine, GameTables.advanceBlinds, bind_eq_ok_iff, require_eq_ok_iff,
      GameTables.flush_eq_ok_iff] at h
    obtain ⟨-, hstatus, -, -, -, hnext, hcons, rfl⟩ := h
    exact ⟨_, .blindsAdvanced hstatus hnext, rfl, hcons⟩
  | pauseTable =>
    simp only [gameMachine, GameTables.pauseTable, bind_eq_ok_iff, require_eq_ok_iff,
      GameTables.flush_eq_ok_iff] at h
    obtain ⟨-, hstatus, hcons, rfl⟩ := h
    exact ⟨_, .paused hstatus, rfl, hcons⟩
  | resumeTable =>
    simp only [gameMachine, GameTables.resumeTable, bind_eq_ok_iff, require_eq_ok_iff,
      GameTables.flush_eq_ok_iff] at h
    obtain ⟨-, hstatus, hcons, rfl⟩ := h
    exact ⟨_, .resumed hstatus, rfl, hcons⟩
  | recordHandCompleted clock =>
    obtain ⟨hcons, rfl⟩ := GameTables.flush_eq_ok_iff.mp h
    exact ⟨_, .handRecorded, rfl, hcons⟩
  | endGame finished =>
    simp only [gameMachine, GameTables.endGame, bind_eq_ok_iff, GameTables.flush_eq_ok_iff] at h
    obtain ⟨-, -, hcons, rfl⟩ := h
    exact ⟨_, .ended, rfl, hcons⟩

/-- The row of the game an accepted command on the table has left. -/
lemma tableStep_of_ok {g : GameTables} {game : Game} {c : GameCommand} (hc : c.IsAdministrative)
    (h : gameMachine.step g c = .ok { g with game := game }) : TableStep g c game := by
  obtain ⟨game', hstep, heq, -⟩ := table_step_cases hc h
  obtain rfl : game = game' := congrArg GameTables.game heq
  exact hstep

/-- A game that is not over after a command on the table was not over before. -/
lemma TableStep.status_ne {g : GameTables} {c : GameCommand} {game : Game}
    (hstep : TableStep g c game) (h : game.status ≠ .finished) : g.game.status ≠ .finished := by
  cases hstep with
  | blindsAdvanced hstatus | paused hstatus | resumed hstatus => simp [hstatus]
  | handRecorded => exact h
  | ended => exact absurd rfl h

/-- An accepted command on the table keeps the game, and only resuming makes it active. -/
lemma TableStep.game_eq {g : GameTables} {c : GameCommand} {game : Game}
    (hstep : TableStep g c game) :
    game.gameId = g.game.gameId ∧ game.roomId = g.game.roomId ∧
      (game.status = .active → g.game.status = .active ∨
        c = .resumeTable ∧ g.game.status = .paused) := by
  cases hstep with
  | blindsAdvanced hstatus | paused hstatus => exact ⟨rfl, rfl, fun _ => Or.inl hstatus⟩
  | resumed hstatus => exact ⟨rfl, rfl, fun _ => Or.inr ⟨rfl, hstatus⟩⟩
  | handRecorded => exact ⟨rfl, rfl, Or.inl⟩
  | ended => exact ⟨rfl, rfl, fun h => by cases h⟩

/-- Resuming makes a paused game active. -/
lemma status_of_resumeTable {g g' : GameTables} (h : gameMachine.step g .resumeTable = .ok g') :
    g.game.status = .paused ∧ g'.game.status = .active := by
  obtain ⟨game, hstep, rfl, -⟩ := table_step_cases (c := .resumeTable) trivial h
  cases hstep with
  | resumed hstatus => exact ⟨hstatus, rfl⟩

/-- An accepted command does one of these, and the rows it leaves satisfy the constraints. -/
theorem game_step_cases {g g' : GameTables} {c : GameCommand} (h : gameMachine.step g c = .ok g') :
    GameStep g c g' ∧ g'.Constraints := by
  have htable : c.IsAdministrative → GameStep g c g' ∧ g'.Constraints := by
    intro hc
    obtain ⟨game, hstep, rfl, hcons⟩ := table_step_cases hc h
    exact ⟨.administered hc hstep.status_ne, hcons⟩
  cases c with
  | startRound data roundId ids => exact startRound_cases h
  | round roundId c clock => exact onRound_cases h
  | advanceBlinds | pauseTable | resumeTable | recordHandCompleted | endGame => exact htable trivial

/-- An accepted command keeps the game, and only resuming makes it active. -/
lemma game_eq_of_ok {g g' : GameTables} {c : GameCommand} (h : gameMachine.step g c = .ok g') :
    g'.game.gameId = g.game.gameId ∧ g'.game.roomId = g.game.roomId ∧
      (g'.game.status = .active → g.game.status = .active ∨
        c = .resumeTable ∧ g.game.status = .paused) := by
  cases (game_step_cases h).1 with
  | started | acted => exact ⟨rfl, rfl, Or.inl⟩
  | @settled roundId c clock r r' data ids hc hset =>
    set completed := if hasRoundCompletedEntry r then g.game else
      (applyHandCompletion g.game g.snapshot true clock).write g.game with hcompleted
    have hsame : completed.gameId = g.game.gameId ∧ completed.roomId = g.game.roomId ∧
        completed.status = g.game.status := by
      rw [hcompleted]
      split <;> exact ⟨rfl, rfl, rfl⟩
    obtain ⟨hgame, hroom, hstatus⟩ := completed.moveOn_game
      (remainingSeats (syncRoomSnapshotPlayersFromRound r'.players g.snapshot.players))
    refine ⟨hgame.trans hsame.1, hroom.trans hsame.2.1, fun hactive => Or.inl ?_⟩
    rcases hstatus with hkept | hover
    · exact hsame.2.2.symm.trans (hkept.symm.trans hactive)
    · exact absurd (hover.symm.trans hactive) (by decide)
  | administered hc _ => exact (tableStep_of_ok hc h).game_eq

end PokerRoom
