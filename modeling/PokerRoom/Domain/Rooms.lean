import PokerRoom.Domain.Constants
import PokerRoom.Foundation.Checks
import Mathlib.Data.List.Nodup

/-!
# Rooms

The rows of the room service's `domain/models.py`, the texts of its error messages, and the requests
as `shared/schemas/rooms.py` admits them.  A `RoomTables` gathers what is stored for one room.  The
database declares no constraint on seats and names: only the identifiers of the players are unique.

Time stamps are left out: no modelled command reads them.
-/

namespace PokerRoom

open Foundation

/-! ## Constants -/

/-- Status of a room. -/
inductive RoomStatus
  | waiting | active | finished
deriving DecidableEq, Repr

/-- Texts of the error messages of the room service. -/
inductive RoomErrorMessage
  | roomNotFound | playerNotFound | roomFull | roomNotWaiting | roomNotActive | invalidCode
  | duplicateName | seatTaken | invalidSeat | duplicateSeatAssignment | duplicatePlayerAssignment
  | playerNotInRoom
deriving DecidableEq, Repr

/-- The text of an error message. -/
def RoomErrorMessage.value : RoomErrorMessage → String
  | .roomNotFound => "Room not found"
  | .playerNotFound => "Player not found"
  | .roomFull => "Room is full"
  | .roomNotWaiting => "Room is not in WAITING status"
  | .roomNotActive => "Room is not in ACTIVE status"
  | .invalidCode => "Invalid room code"
  | .duplicateName => "A player with that name is already in the room"
  | .seatTaken => "Seat is already taken"
  | .invalidSeat => "Seat number is outside the room capacity"
  | .duplicateSeatAssignment => "Seat assignments contain duplicate seats"
  | .duplicatePlayerAssignment => "Seat assignments contain duplicate players"
  | .playerNotInRoom => "All assigned players must belong to the room"

/-- Why the room service rejects a request: an HTTP exception, a violated database constraint, or
several rows where one is expected. -/
inductive RoomRejection
  | http (statusCode : ℕ) (detail : String)
  | integrityError
  | multipleResultsFound
deriving DecidableEq, Repr

/-- An HTTP exception with one of the fixed messages. -/
def httpException (statusCode : ℕ) (m : RoomErrorMessage) : RoomRejection :=
  .http statusCode m.value

/-! ## Rows -/

/-- A stored room. -/
structure Room where
  /-- Identifier of the room. -/
  roomId : String
  /-- The code players join with. -/
  code : String
  /-- Name of the room, if it has one. -/
  name : Option String
  /-- Status of the room. -/
  status : RoomStatus
  /-- The capacity. -/
  maxPlayers : Int
  /-- Chips a player starts with. -/
  startingChips : Int
  /-- Antes are posted. -/
  antesEnabled : Bool
  /-- Seat of the first button. -/
  startingDealerSeat : Int
  /-- Who created the room. -/
  createdBy : String
deriving DecidableEq, Repr

/-- A stored player of a room. -/
structure RoomPlayer where
  /-- Identifier of the player. -/
  playerId : String
  /-- Name of the player. -/
  playerName : String
  /-- Seat the player occupies. -/
  seatNumber : Int
  /-- Chips the player has. -/
  chipCount : Int
  /-- The player takes part. -/
  isActive : Bool
  /-- The player has lost his chips. -/
  isEliminated : Bool
deriving DecidableEq, Repr

/-- A stored level of the blind structure of a room. -/
structure BlindLevel where
  /-- Number of the level. -/
  level : Int
  /-- The small blind. -/
  smallBlind : Int
  /-- The big blind. -/
  bigBlind : Int
  /-- The ante. -/
  ante : Int
  /-- How long the level lasts. -/
  durationMinutes : Int
deriving DecidableEq, Repr

/-- Everything stored for one room, in the order of insertion. -/
structure RoomTables where
  /-- The room. -/
  room : Room
  /-- The players. -/
  players : List RoomPlayer
  /-- The blind levels. -/
  blindLevels : List BlindLevel
deriving DecidableEq, Repr

/-- The identifiers of the players are unique. -/
def RoomTables.Constraints (t : RoomTables) : Prop := (t.players.map (·.playerId)).Nodup

instance : DecidablePred RoomTables.Constraints := fun t =>
  inferInstanceAs (Decidable (t.players.map (·.playerId)).Nodup)

/-- Write the rows of a room; the transaction is rolled back when they violate a constraint. -/
def RoomTables.flush (t : RoomTables) : Except RoomRejection RoomTables :=
  if t.Constraints then .ok t else .error .integrityError

/-- A flush that succeeds writes the rows it was given, and they satisfy the constraints. -/
lemma RoomTables.flush_eq_ok_iff {t t' : RoomTables} :
    t.flush = .ok t' ↔ t.Constraints ∧ t' = t := by
  unfold RoomTables.flush
  split
  · next h => simp [h, eq_comm]
  · next h => simp [h]

/-! ## Requests -/

/-- A request to create a room. -/
@[ext]
structure CreateRoom where
  /-- Name of the room, if it gets one. -/
  name : Option String := none
  /-- The capacity. -/
  maxPlayers : Int
  /-- Chips a player starts with. -/
  startingChips : Int
  /-- Antes are posted. -/
  antesEnabled : Bool := false
  /-- Who creates the room. -/
  createdBy : String
  /-- At least two players fit in. -/
  two_le_maxPlayers : 2 ≤ maxPlayers
  /-- At most ten players fit in. -/
  maxPlayers_le : maxPlayers ≤ 10
  /-- There are chips to start with. -/
  startingChips_pos : 0 < startingChips
  /-- The creator is named. -/
  createdBy_ne : createdBy ≠ ""
deriving Repr

instance : DecidableEq CreateRoom := fun _ _ => decidable_of_iff _ CreateRoom.ext_iff.symm

/-- A request to join a room. -/
@[ext]
structure JoinRoom where
  /-- Name of the player. -/
  playerName : String
  /-- The requested seat, if any. -/
  seatNumber : Option Int := none
  /-- The name is not empty. -/
  playerName_ne : playerName ≠ ""
  /-- A requested seat has a positive number. -/
  seatNumber_pos : ∀ seat ∈ seatNumber, 1 ≤ seat
deriving Repr

instance : DecidableEq JoinRoom := fun _ _ => decidable_of_iff _ JoinRoom.ext_iff.symm

/-- A seat assigned to a player. -/
@[ext]
structure SeatAssignment where
  /-- The player. -/
  playerId : String
  /-- The seat. -/
  seatNumber : Int
  /-- The identifier is not empty. -/
  playerId_ne : playerId ≠ ""
  /-- The seat has a positive number. -/
  seatNumber_pos : 1 ≤ seatNumber
deriving Repr

instance : DecidableEq SeatAssignment := fun _ _ => decidable_of_iff _ SeatAssignment.ext_iff.symm

/-- A request to reorder seats. -/
structure ReorderSeats where
  /-- The assigned seats. -/
  assignments : List SeatAssignment
  /-- There is at least one. -/
  assignments_ne : assignments ≠ []
deriving DecidableEq, Repr

/-- A level of a requested blind structure. -/
structure BlindLevelInput extends BlindLevel where
  /-- Levels are numbered from one. -/
  level_pos : 1 ≤ level
  /-- The small blind is positive. -/
  smallBlind_pos : 0 < smallBlind
  /-- The big blind is positive. -/
  bigBlind_pos : 0 < bigBlind
  /-- The ante is not negative. -/
  ante_nonneg : 0 ≤ ante
  /-- The level lasts. -/
  durationMinutes_pos : 0 < durationMinutes
deriving DecidableEq, Repr

/-- A request to set the blind structure. -/
@[ext]
structure SetBlindStructure where
  /-- The levels. -/
  levels : List BlindLevelInput
  /-- Seat of the first button. -/
  startingDealerSeat : Int := 1
  /-- There is at least one level. -/
  levels_ne : levels ≠ []
  /-- The seat has a positive number. -/
  startingDealerSeat_pos : 1 ≤ startingDealerSeat
deriving Repr

instance : DecidableEq SetBlindStructure :=
  fun _ _ => decidable_of_iff _ SetBlindStructure.ext_iff.symm

end PokerRoom
