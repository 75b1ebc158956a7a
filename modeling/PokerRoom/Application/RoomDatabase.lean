import PokerRoom.Application.RoomCommands
import PokerRoom.Foundation.Clockwise
import PokerRoom.Foundation.ObjectStore
import PokerRoom.Foundation.OwnedRows

/-!
# The database of the room service

The tables of the room service's `domain/models.py` with the rows of all rooms, the queries of
`infrastructure/repositories/`, and the commands of `room_command_service.py` and
`room_player_command_service.py` as they run on these tables: a room is found by its identifier or
by its code, a player by his identifier, and every query about a room filters the rows of the
players by the room.  The commands write the events of `RoomEventType` into the outbox.

Identifiers and codes are drawn at random; they come with the request.
-/

namespace PokerRoom

open Foundation

/-! ## Rows -/

/-- A stored player, with the room he belongs to. -/
structure RoomPlayerRow extends RoomPlayer where
  /-- The room. -/
  roomId : String
deriving DecidableEq, Repr

/-- A stored blind level, with the room it belongs to. -/
structure BlindLevelRow extends BlindLevel where
  /-- The room. -/
  roomId : String
deriving DecidableEq, Repr

/-- An event of a room, with the data it carries. -/
inductive RoomEvent
  /-- A room was created. -/
  | created (roomId code : String) (maxPlayers : Int) (createdBy : String)
  /-- A room was activated. -/
  | activated (roomId : String) (status : RoomStatus)
  /-- A room was finished. -/
  | finished (roomId : String) (status : RoomStatus)
  /-- A player joined. -/
  | playerJoined (roomId playerId playerName : String) (seatNumber chipCount : Int)
  /-- A player was eliminated. -/
  | playerEliminated (roomId playerId playerName : String)
  /-- The chips of a player were set. -/
  | chipsUpdated (roomId playerId : String) (chipCount : Int)
  /-- Players were seated anew. -/
  | seatsReordered (roomId : String) (assignments : List (String × Int))
deriving DecidableEq, Repr

/-- The name of an event. -/
def RoomEvent.eventType : RoomEvent → String
  | .created _ _ _ _ => "room.created"
  | .activated _ _ => "room.activated"
  | .finished _ _ => "room.finished"
  | .playerJoined _ _ _ _ _ => "room.player_joined"
  | .playerEliminated _ _ _ => "room.player_eliminated"
  | .chipsUpdated _ _ _ => "room.chips_updated"
  | .seatsReordered _ _ => "room.seats_reordered"

/-- The tables of the room service, each in the order of insertion. -/
structure RoomDatabase where
  /-- The rooms. -/
  rooms : List Room
  /-- The players of all rooms. -/
  players : List RoomPlayerRow
  /-- The blind levels of all rooms. -/
  blindLevels : List BlindLevelRow
  /-- The events in the outbox. -/
  outbox : List RoomEvent
deriving DecidableEq, Repr

namespace RoomDatabase

/-- The empty tables. -/
def empty : RoomDatabase := ⟨[], [], [], []⟩

/-- The identifiers and codes of the rooms and the identifiers of the players are unique. -/
def Constraints (db : RoomDatabase) : Prop :=
  (db.rooms.map (·.roomId)).Nodup ∧ (db.rooms.map (·.code)).Nodup ∧
    (db.players.map (·.playerId)).Nodup

instance : DecidablePred Constraints := fun db =>
  inferInstanceAs (Decidable ((db.rooms.map (·.roomId)).Nodup ∧ (db.rooms.map (·.code)).Nodup ∧
    (db.players.map (·.playerId)).Nodup))

/-- Commit the rows; the transaction is rolled back when they violate a constraint. -/
def commit (db : RoomDatabase) : Except RoomRejection RoomDatabase :=
  if db.Constraints then .ok db else .error .integrityError

/-- Write an event into the outbox. -/
def addOutboxEvent (db : RoomDatabase) (event : RoomEvent) : RoomDatabase :=
  { db with outbox := db.outbox ++ [event] }

/-- Rewrite the row of a room. -/
def writeRoom (db : RoomDatabase) (roomId : String) (f : Room → Room) : RoomDatabase :=
  { db with rooms := updateFirst (·.roomId) roomId f db.rooms }

/-! ## Queries -/

variable (db : RoomDatabase)

/-- The room with an identifier. -/
def fetchRoom (roomId : String) : Except RoomRejection Room := do
  let room ← scalarOneOrNone .multipleResultsFound
    (db.rooms.filter fun room => room.roomId = roomId)
  found (httpException 404 .roomNotFound) room

/-- The player with an identifier. -/
def fetchPlayer (playerId : String) : Except RoomRejection RoomPlayerRow := do
  let player ← scalarOneOrNone .multipleResultsFound
    (db.players.filter fun p => p.playerId = playerId)
  found (httpException 404 .playerNotFound) player

/-- The room with a code, in capital or small letters. -/
def getRoomByCode (code : String) : Except RoomRejection (Option Room) :=
  scalarOneOrNone .multipleResultsFound (db.rooms.filter fun room => room.code = upper code)

/-- The players of a room by their seats. -/
def getPlayersInRoom (roomId : String) : List RoomPlayerRow :=
  bySeat (·.seatNumber) (db.players.filter fun p => p.roomId = roomId)

/-- The number of players in a room. -/
def countPlayersInRoom (roomId : String) : ℕ :=
  (db.players.filter fun p => p.roomId = roomId).length

/-- The seat after the highest occupied one of a room. -/
def getNextSeatNumber (roomId : String) : Int :=
  ((db.players.filter fun p => p.roomId = roomId).map (·.seatNumber)).max?.getD 0 + 1

/-- The seat of a room is occupied. -/
def seatNumberExistsInRoom (roomId : String) (seatNumber : Int) : Except RoomRejection Bool :=
  (scalarOneOrNone .multipleResultsFound
    (db.players.filter fun p => p.roomId = roomId ∧ p.seatNumber = seatNumber)).map (·.isSome)

/-- The name is taken in a room. -/
def playerNameExistsInRoom (roomId playerName : String) : Except RoomRejection Bool :=
  (scalarOneOrNone .multipleResultsFound
    (db.players.filter fun p => p.roomId = roomId ∧ p.playerName = playerName)).map (·.isSome)

end RoomDatabase

/-! ## Codes -/

/-- How many characters a code has. -/
def codeLength : ℕ := 4

/-- The characters codes are made of. -/
def codeChars : List Char := "ABCDEFGHIJKLMNOPQRSTUVWXYZ0123456789".toList

/-- A code of random characters. -/
structure RoomCode where
  /-- The code. -/
  value : String
  /-- It has the length of a code. -/
  length_eq : value.toList.length = codeLength
  /-- It is made of these characters. -/
  mem_codeChars : ∀ c ∈ value.toList, c ∈ codeChars

/-- Why a request is not answered as asked: it is rejected, or the service fails. -/
inductive RoomServiceError
  | rejected (e : RoomRejection)
  | runtimeError (message : String)
deriving DecidableEq, Repr

/-- The first of the drawn codes that no room has. -/
def RoomDatabase.generateUniqueCode (db : RoomDatabase) :
    List RoomCode → Except RoomServiceError RoomCode
  | [] => .error (.runtimeError "Failed to generate unique room code after 100 attempts")
  | code :: draws => do
    let room ← (scalarOneOrNone .multipleResultsFound
      (db.rooms.filter fun room => room.code = code.value)).mapError .rejected
    if room = none then return code else db.generateUniqueCode draws

/-- How many codes are drawn at most. -/
def codeAttempts : ℕ := 100

/-! ## Commands -/

/-- The event of a room that is created. -/
def Room.createdEvent (room : Room) : RoomEvent :=
  .created room.roomId room.code room.maxPlayers room.createdBy

/-- The event of a player who joined. -/
def RoomPlayerRow.joinedEvent (p : RoomPlayerRow) : RoomEvent :=
  .playerJoined p.roomId p.playerId p.playerName p.seatNumber p.chipCount

/-- The event of a reordering. -/
def ReorderSeats.reorderedEvent (data : ReorderSeats) (roomId : String) : RoomEvent :=
  .seatsReordered roomId (data.assignments.map fun a => (a.playerId, a.seatNumber))

namespace RoomDatabase

variable (db : RoomDatabase)

/-- Create a room. -/
def createRoom (data : CreateRoom) (roomId : String) (draw : ℕ → RoomCode) :
    Except RoomServiceError RoomDatabase := do
  let code ← db.generateUniqueCode ((List.range codeAttempts).map draw)
  let room := (PokerRoom.createRoom data roomId code.value).room
  ({ db with rooms := db.rooms ++ [room] }.addOutboxEvent
    room.createdEvent).commit.mapError .rejected

/-- The seat of a player who joins a room: the requested one, or else the next one. -/
def resolveJoinSeat (room : Room) (requested : Option Int) : Except RoomRejection Int := do
  let seatNumber := (requestedSeat requested).getD (db.getNextSeatNumber room.roomId)
  requireCapacity room seatNumber
  let taken ← db.seatNumberExistsInRoom room.roomId seatNumber
  require (taken = false) (httpException 409 .seatTaken)
  return seatNumber

/-- Join a room by its code. -/
def joinRoomByCode (code : String) (data : JoinRoom) (playerId : String) :
    Except RoomRejection RoomDatabase := do
  let room ← db.getRoomByCode code
  let room ← found (httpException 404 .invalidCode) room
  require (room.status = .waiting) (httpException 400 .roomNotWaiting)
  require (db.countPlayersInRoom room.roomId < room.maxPlayers) (httpException 400 .roomFull)
  let taken ← db.playerNameExistsInRoom room.roomId data.playerName
  require (taken = false) (httpException 409 .duplicateName)
  let seatNumber ← db.resolveJoinSeat room data.seatNumber
  let player : RoomPlayerRow := ⟨data.player room playerId seatNumber, room.roomId⟩
  ({ db with players := db.players ++ [player] }.addOutboxEvent player.joinedEvent).commit

/-- Seat a player as assigned. -/
def seatPlayer (players : List RoomPlayerRow) (assignment : SeatAssignment) : List RoomPlayerRow :=
  updateFirst (·.playerId) assignment.playerId
    (fun p => { p with toRoomPlayer := assignment.seat p.toRoomPlayer }) players

/-- Reorder the seats of a room. -/
def reorderSeats (roomId : String) (data : ReorderSeats) : Except RoomRejection RoomDatabase := do
  let room ← db.fetchRoom roomId
  require (room.status = .waiting) (httpException 400 .roomNotWaiting)
  validateSeatAssignments room data ((db.getPlayersInRoom roomId).map (·.toRoomPlayer))
  ({ db with players := data.assignments.foldl seatPlayer db.players }.addOutboxEvent
    (data.reorderedEvent roomId)).commit

/-- Set the blind structure of a room. -/
def setBlindStructure (roomId : String) (data : SetBlindStructure) :
    Except RoomRejection RoomDatabase := do
  let room ← db.fetchRoom roomId
  require (room.status = .waiting) (httpException 400 .roomNotWaiting)
  let levels : List BlindLevelRow := data.levels.map fun level => ⟨level.toBlindLevel, roomId⟩
  let kept := db.blindLevels.filter fun level => level.roomId ≠ roomId
  ({ db with blindLevels := kept ++ levels }.writeRoom roomId
    fun room => { room with startingDealerSeat := data.startingDealerSeat }).commit

/-- Activate a room that waits; an active one is left alone. -/
def activateRoom (roomId : String) : Except RoomRejection RoomDatabase := do
  let room ← db.fetchRoom roomId
  if room.status = .active then return db
  require (room.status = .waiting) (httpException 400 .roomNotWaiting)
  ((db.writeRoom roomId fun room => { room with status := .active }).addOutboxEvent
    (.activated roomId .active)).commit

/-- Finish an active room; a finished one is left alone. -/
def finishRoom (roomId : String) : Except RoomRejection RoomDatabase := do
  let room ← db.fetchRoom roomId
  if room.status = .finished then return db
  require (room.status = .active) (httpException 400 .roomNotActive)
  ((db.writeRoom roomId fun room => { room with status := .finished }).addOutboxEvent
    (.finished roomId .finished)).commit

/-- Rewrite the row of a player, and write an event about it. -/
def updatePlayer (playerId : String) (f : RoomPlayer → RoomPlayer)
    (event : RoomPlayerRow → RoomEvent) :
    Except RoomRejection RoomDatabase := do
  let player ← db.fetchPlayer playerId
  let players := updateFirst (·.playerId) playerId
    (fun p : RoomPlayerRow => { p with toRoomPlayer := f p.toRoomPlayer }) db.players
  ({ db with players := players }.addOutboxEvent (event player)).commit

/-- Set the chips of a player. -/
def updatePlayerChips (playerId : String) (chipCount : Int) : Except RoomRejection RoomDatabase :=
  db.updatePlayer playerId (fun p => { p with chipCount := chipCount })
    fun p => .chipsUpdated p.roomId p.playerId chipCount

/-- Eliminate a player. -/
def eliminatePlayer (playerId : String) : Except RoomRejection RoomDatabase :=
  db.updatePlayer playerId (fun p =>
    { p with isEliminated := true, isActive := false, chipCount := 0 })
    fun p => .playerEliminated p.roomId p.playerId p.playerName

/-- Delete a room with its players and blind levels. -/
def deleteRoom (roomId : String) : Except RoomRejection RoomDatabase := do
  let room ← db.fetchRoom roomId
  RoomDatabase.commit
    { db with
      rooms := db.rooms.filter fun r => r.roomId ≠ room.roomId
      players := db.players.filter fun p => p.roomId ≠ roomId
      blindLevels := db.blindLevels.filter fun level => level.roomId ≠ roomId }

end RoomDatabase

/-! ## The machine -/

/-- The commands of the room service, with the identifiers and codes drawn for them. -/
inductive RoomServiceCommand
  /-- Create a room. -/
  | createRoom (data : CreateRoom) (roomId : String) (draw : ℕ → RoomCode)
  /-- Join a room by its code. -/
  | joinRoomByCode (code : String) (data : JoinRoom) (playerId : String)
  /-- Reorder the seats of a room. -/
  | reorderSeats (roomId : String) (data : ReorderSeats)
  /-- Set the blind structure of a room. -/
  | setBlindStructure (roomId : String) (data : SetBlindStructure)
  /-- Activate a room. -/
  | activateRoom (roomId : String)
  /-- Finish a room. -/
  | finishRoom (roomId : String)
  /-- Set the chips of a player, to an amount that is not negative. -/
  | updatePlayerChips (playerId : String) (chipCount : ℕ)
  /-- Eliminate a player. -/
  | eliminatePlayer (playerId : String)
  /-- Delete a room. -/
  | deleteRoom (roomId : String)

/-- The room service, whose requests are answered one after another. -/
def roomServiceMachine : Machine RoomDatabase RoomServiceCommand RoomServiceError where
  step db
    | .createRoom data roomId draw => db.createRoom data roomId draw
    | .joinRoomByCode code data playerId =>
      (db.joinRoomByCode code data playerId).mapError .rejected
    | .reorderSeats roomId data => (db.reorderSeats roomId data).mapError .rejected
    | .setBlindStructure roomId data => (db.setBlindStructure roomId data).mapError .rejected
    | .activateRoom roomId => (db.activateRoom roomId).mapError .rejected
    | .finishRoom roomId => (db.finishRoom roomId).mapError .rejected
    | .updatePlayerChips playerId chipCount =>
      (db.updatePlayerChips playerId chipCount).mapError .rejected
    | .eliminatePlayer playerId => (db.eliminatePlayer playerId).mapError .rejected
    | .deleteRoom roomId => (db.deleteRoom roomId).mapError .rejected

end PokerRoom
