import PokerRoom.Application.HandCompletion
import PokerRoom.Domain.Engine.Positions
import PokerRoom.Application.RoundCommands

/-!
# Commands on a game

The parts of `application/commands/game_command_service.py` and `table_runtime_command_service.py`
that read and write more than one round: a game is started from the configuration of its room, a
round from the snapshot of the game, and a settlement writes the stacks of its round back to the
snapshot, counts the hand and moves the button.
-/

namespace PokerRoom

open Foundation

/-! ## Stored rows -/

/-- Check constraints on the row of a game. -/
def Game.NonNegative (game : Game) : Prop :=
  1 ≤ game.currentBlindLevel ∧ 0 ≤ game.handsPlayed ∧ 0 ≤ game.handsAtCurrentLevel

instance : DecidablePred Game.NonNegative := fun game =>
  inferInstanceAs (Decidable (1 ≤ game.currentBlindLevel ∧ _))

/-- Everything stored for one game: the game, its snapshot of the room, and its rounds in the order
of their creation. -/
structure GameTables where
  /-- The game. -/
  game : Game
  /-- The snapshot of the room. -/
  snapshot : RoomConfig
  /-- The rounds. -/
  rounds : List RoundTables
deriving DecidableEq, Repr

/-- The check and uniqueness constraints on the rows of one game, those on the rows of one round
aside. -/
structure GameTables.Constraints (g : GameTables) : Prop where
  /-- Counters of the game. -/
  game : g.game.NonNegative
  /-- The snapshot. -/
  snapshot : g.snapshot.Constraints
  /-- Rounds are distinct. -/
  roundIds : (g.rounds.map (·.round.roundId)).Nodup
  /-- Rounds are numbered. -/
  roundNumbers : (g.rounds.map (·.round.roundNumber)).Nodup
  /-- Bets of all rounds are distinct. -/
  betIds : (g.rounds.flatMap fun r => r.bets.map (·.betId)).Nodup
  /-- Ledger entries of all rounds are distinct. -/
  entryIds : (g.rounds.flatMap fun r => r.ledger.map (·.entryId)).Nodup

instance : DecidablePred GameTables.Constraints := fun g =>
  decidable_of_iff
    (g.game.NonNegative ∧ g.snapshot.Constraints ∧ (g.rounds.map (·.round.roundId)).Nodup ∧
      (g.rounds.map (·.round.roundNumber)).Nodup ∧
      (g.rounds.flatMap fun r => r.bets.map (·.betId)).Nodup ∧
      (g.rounds.flatMap fun r => r.ledger.map (·.entryId)).Nodup)
    ⟨fun ⟨h₁, h₂, h₃, h₄, h₅, h₆⟩ => ⟨h₁, h₂, h₃, h₄, h₅, h₆⟩,
      fun ⟨h₁, h₂, h₃, h₄, h₅, h₆⟩ => ⟨h₁, h₂, h₃, h₄, h₅, h₆⟩⟩

/-- Write the rows of a game; the transaction is rolled back when they violate a constraint. -/
def GameTables.flush (g : GameTables) : Except Rejection GameTables :=
  if g.Constraints then .ok g else .error .integrityError

/-- A flush that succeeds writes the rows it was given, and they satisfy the constraints. -/
lemma GameTables.flush_eq_ok_iff {g g' : GameTables} :
    g.flush = .ok g' ↔ g.Constraints ∧ g' = g := by
  unfold GameTables.flush
  split
  · next h => simp [h, eq_comm]
  · next h => simp [h]

/-- Raise the domain exception of a missing row. -/
def notFound (m : ErrorMessage) : Rejection := .domain ⟨.notFound, m.value⟩

/-- Raise the domain exception of a game that is not ready. -/
def gameNotActive (m : ErrorMessage) : Rejection := .domain ⟨.gameNotActive, m.value⟩

/-! ## Starting a game -/

/-- The rows of a game that is started. -/
def startedGame (roomConfig : RoomConfig) (positions : Positions) (gameId : String) (now : Int) :
    GameTables :=
  { game :=
      { gameId := gameId
        roomId := roomConfig.roomId
        status := .active
        currentBlindLevel := 1
        levelStartedAt := now
        currentDealerSeat := positions.dealerSeat
        currentSmallBlindSeat := positions.smallBlindSeat
        currentBigBlindSeat := positions.bigBlindSeat
        handsPlayed := 0
        handsAtCurrentLevel := 0 }
    snapshot := saveRoomSnapshot roomConfig
    rounds := [] }

/-- Start a game in a room that has the given active game, with the configuration the room service
has answered with and its answer to the activation of the room. -/
def startGame (existing : Option Game) (roomConfig : RoomConfig) (activated : Except Rejection Unit)
    (gameId : String) (now : Int) : Except Rejection GameTables := do
  require (existing = none)
    (.domain ⟨.gameAlreadyExists, ErrorMessage.gameAlreadyExists.value⟩)
  require (roomConfig.blindLevels ≠ []) (notFound .noBlindLevels)
  require (2 ≤ roomConfig.activeSeats.length) (gameNotActive .activePlayersRequired)
  match assignPositions roomConfig.activeSeats roomConfig.startingDealerSeat with
  | none => .error .indexError
  | some positions =>
    activated
    (startedGame roomConfig positions gameId now).flush

/-! ## Starting a round -/

/-- A request to start a round. -/
structure StartRoundRequest where
  /-- The player who asks for it. -/
  startedByPlayerId : Option String := none
  /-- The controller of the table asks for it. -/
  startedByController : Bool := false
  /-- The identifier is not empty. -/
  startedByPlayerId_ne : startedByPlayerId ≠ some "" := by decide
deriving DecidableEq, Repr

/-- Only the controller and the player on the button may start a round. -/
def requireRoundStartAuthorized (game : Game) (roomConfig : RoomConfig) (data : StartRoundRequest) :
    Except Rejection Unit :=
  let buttonPlayer :=
    roomConfig.activePlayers.find? fun p => p.seatNumber = game.currentDealerSeat
  require (data.startedByController = true ∨
      ∃ p ∈ buttonPlayer, data.startedByPlayerId = some p.playerId)
    (.domain ⟨.roundStartNotAllowed, ErrorMessage.roundStartNotAllowed.value⟩)

/-- The active round of a game. -/
def GameTables.activeRound (g : GameTables) : Except Rejection (Option RoundTables) :=
  match g.rounds.filter fun r => r.round.status = .active with
  | [] => .ok none
  | [r] => .ok (some r)
  | _ => .error .multipleResultsFound

/-- The lookup of the active round reads the only active one. -/
lemma activeRound_eq_scalarOneOrNone (g : GameTables) :
    g.activeRound =
      scalarOneOrNone .multipleResultsFound
        (g.rounds.filter fun r => r.round.status = .active) := by
  unfold GameTables.activeRound
  generalize g.rounds.filter (fun r => r.round.status = .active) = live
  match live with
  | [] => rfl
  | [r] => rfl
  | r :: q :: rs => rfl

/-- The blind level a round is played on: the current one, or else the first one. -/
def GameTables.roundLevel (g : GameTables) : Option BlindLevelConfig :=
  (g.snapshot.blindLevel g.game.currentBlindLevel).or g.snapshot.blindLevels.head?

/-- The ante of a level. -/
def anteAmount (roomConfig : RoomConfig) (blindLevel : BlindLevelConfig) : Int :=
  if roomConfig.antesEnabled then blindLevel.ante else 0

/-- A player of the room as he is dealt in. -/
def PlayerConfig.seatPlayer (p : PlayerConfig) : SeatPlayer :=
  ⟨p.playerId, p.seatNumber, p.chipCount⟩

/-- The values a round is created from, after some rounds of a game. -/
def Game.roundSetup (game : Game) (roundCount : ℕ) (roomConfig : RoomConfig)
    (level : BlindLevelConfig) (roundId : String) : RoundSetup :=
  { roundId := roundId
    roundNumber := roundCount + 1
    dealerSeat := game.currentDealerSeat
    smallBlindSeat := game.currentSmallBlindSeat
    bigBlindSeat := game.currentBigBlindSeat
    smallBlind := level.smallBlind
    bigBlind := level.bigBlind
    ante := anteAmount roomConfig level
    players := roomConfig.activePlayers.map (·.seatPlayer) }

/-- The values the next round is created from. -/
def GameTables.roundSetup (g : GameTables) (level : BlindLevelConfig) (roundId : String) :
    RoundSetup :=
  g.game.roundSetup g.rounds.length g.snapshot level roundId

/-- Start a round. -/
def GameTables.startRound (g : GameTables) (data : StartRoundRequest) (roundId : String)
    (ids : Uuids) : Except Rejection GameTables := do
  require (g.game.status = .active) (gameNotActive .gameNotActive)
  let existing ← g.activeRound
  require (existing = none) (gameNotActive .roundAlreadyActive)
  match g.roundLevel with
  | none => .error (notFound .noBlindLevels)
  | some level =>
    requireRoundStartAuthorized g.game g.snapshot data
    let r ← createRound (g.roundSetup level roundId) ids
    GameTables.flush { g with rounds := g.rounds ++ [r] }

/-! ## Settling a round -/

/-- The ledger of a round records its completion. -/
def hasRoundCompletedEntry (r : RoundTables) : Bool :=
  r.ledger.any fun e => decide (e.entryType = .roundCompleted)

/-- Replace the rows of a round. -/
def GameTables.putRound (g : GameTables) (r : RoundTables) : GameTables :=
  { g with
    rounds := updateFirst (fun r => r.round.roundId) r.round.roundId (fun _ => r) g.rounds }

/-- The players of the snapshot who go on playing, by seat. -/
def remainingSeats (snapshotPlayers : List PlayerConfig) : List Int :=
  (snapshotPlayers.filter (·.plays)).map (·.seatNumber)

/-- Move the positions on, or finish the game when fewer than two players remain. -/
def Game.moveOn (game : Game) (activeSeats : List Int) : Game :=
  if 2 ≤ activeSeats.length then
    match rotatePositions activeSeats game.currentDealerSeat with
    | some positions =>
      { game with
        currentDealerSeat := positions.dealerSeat
        currentSmallBlindSeat := positions.smallBlindSeat
        currentBigBlindSeat := positions.bigBlindSeat }
    | none => game
  else { game with status := .finished }

/-- The rows of a game after the settlement of one of its rounds: the rows of the round before and
after it are given. -/
def GameTables.settled (g : GameTables) (r r' : RoundTables) (clock : Clock) : GameTables :=
  let completion := applyHandCompletion g.game g.snapshot true clock
  let game := if hasRoundCompletedEntry r then g.game else completion.write g.game
  let players := syncRoomSnapshotPlayersFromRound r'.players g.snapshot.players
  { g.putRound r' with
    game := game.moveOn (remainingSeats players)
    snapshot := { g.snapshot with players := players } }

/-- Resolve the hand of a round. -/
def GameTables.resolveHand (g : GameTables) (r : RoundTables) (data : ResolveHandRequest)
    (ids : Uuids) (clock : Clock) : Except Rejection GameTables := do
  let r' ← settleRound r data ids
  (g.settled r r' clock).flush

/-- Declare the winner of a round. -/
def GameTables.declareWinner (g : GameTables) (r : RoundTables) (data : DeclareWinner) (ids : Uuids)
    (clock : Clock) : Except Rejection GameTables := do
  let request ← data.request r
  g.resolveHand r request ids clock

/-! ## Commands on the table -/

/-- Raise the blind level. -/
def GameTables.advanceBlinds (g : GameTables) (now : Int) : Except Rejection GameTables := do
  require (g.game.status = .active) (gameNotActive .gameNotActive)
  require (g.game.currentBlindLevel < g.snapshot.maxLevel) (gameNotActive .maxBlindLevelReached)
  require ((g.snapshot.blindLevel (g.game.currentBlindLevel + 1)).isSome)
    (gameNotActive .maxBlindLevelReached)
  GameTables.flush
    { g with
      game := { g.game with
        currentBlindLevel := g.game.currentBlindLevel + 1
        levelStartedAt := now } }

/-- Pause the table. -/
def GameTables.pauseTable (g : GameTables) : Except Rejection GameTables := do
  require (g.game.status = .active) (gameNotActive .gameNotActive)
  GameTables.flush { g with game := { g.game with status := .paused } }

/-- Resume a paused table. -/
def GameTables.resumeTable (g : GameTables) : Except Rejection GameTables := do
  require (g.game.status = .paused) (gameNotActive .gameNotPaused)
  GameTables.flush { g with game := { g.game with status := .active } }

/-- Count a completed hand that was not counted yet. -/
def GameTables.recordHandCompleted (g : GameTables) (clock : Clock) : Except Rejection GameTables :=
  let completedRounds := (g.rounds.filter fun r => r.round.status = .completed).length
  let completion := applyHandCompletion g.game g.snapshot
    (decide (g.game.handsPlayed < completedRounds)) clock
  GameTables.flush { g with game := completion.write g.game }

/-- End the game, with the answer of the room service to the end of its room. -/
def GameTables.endGame (g : GameTables) (finished : Except Rejection Unit) :
    Except Rejection GameTables := do
  finished
  GameTables.flush { g with game := { g.game with status := .finished } }

end PokerRoom
