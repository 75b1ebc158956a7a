import PokerRoom.Domain.Rooms
import PokerRoom.Foundation.KeyedTable
import PokerRoom.Foundation.Machine
import PokerRoom.Foundation.Transactions

/-!
# Commands on a room

The room service's `application/commands/room_command_service.py`, `room_player_command_service.py`
and `application/seat_helpers.py`, with the queries of `room_player_repository.py`: a room is
created, players join it by its code, their seats are reordered, and its blind structure is set
while the room waits.  `roomMachine` runs the commands one after another; `JoinRoom.handler` is a
join as a transaction that reads the room, the players, their names and their seats one statement
after another.
-/

namespace PokerRoom

open Foundation

/-! ## Queries -/

/-- The number of players in a room. -/
def RoomTables.countPlayersInRoom (t : RoomTables) : ℕ := t.players.length

/-- The seat after the highest occupied one. -/
def RoomTables.getNextSeatNumber (t : RoomTables) : Int :=
  (t.players.map (·.seatNumber)).max?.getD 0 + 1

/-- The seat is occupied. -/
def RoomTables.seatNumberExistsInRoom (t : RoomTables) (seatNumber : Int) :
    Except RoomRejection Bool :=
  (scalarOneOrNone .multipleResultsFound
    (t.players.filter fun p => p.seatNumber = seatNumber)).map (·.isSome)

/-- The name is taken. -/
def RoomTables.playerNameExistsInRoom (t : RoomTables) (playerName : String) :
    Except RoomRejection Bool :=
  (scalarOneOrNone .multipleResultsFound
    (t.players.filter fun p => p.playerName = playerName)).map (·.isSome)

/-! ## Joining a room -/

/-- A requested seat, unless it is zero. -/
def requestedSeat (requested : Option Int) : Option Int := requested.filter fun seat => seat ≠ 0

/-- The seat is within the capacity of the room. -/
def requireCapacity (room : Room) (seatNumber : Int) : Except RoomRejection Unit :=
  require (seatNumber ≤ room.maxPlayers) (httpException 400 .invalidSeat)

/-- The seat is not occupied. -/
def requireFreeSeat (t : RoomTables) (seatNumber : Int) : Except RoomRejection Unit := do
  let taken ← t.seatNumberExistsInRoom seatNumber
  require (taken = false) (httpException 409 .seatTaken)

/-- The name is not taken. -/
def requireFreeName (t : RoomTables) (playerName : String) : Except RoomRejection Unit := do
  let taken ← t.playerNameExistsInRoom playerName
  require (taken = false) (httpException 409 .duplicateName)

/-- The seat of a player who joins: the requested one, or else the next one. -/
def resolveJoinSeat (t : RoomTables) (room : Room) (requested : Option Int) :
    Except RoomRejection Int := do
  let seatNumber := (requestedSeat requested).getD t.getNextSeatNumber
  requireCapacity room seatNumber
  requireFreeSeat t seatNumber
  return seatNumber

/-- The row of a player who joins. -/
def JoinRoom.player (data : JoinRoom) (room : Room) (playerId : String) (seatNumber : Int) :
    RoomPlayer :=
  { playerId := playerId
    playerName := data.playerName
    seatNumber := seatNumber
    chipCount := room.startingChips
    isActive := true
    isEliminated := false }

/-- Insert the row of a player. -/
def RoomTables.insertPlayer (t : RoomTables) (player : RoomPlayer) :
    Except RoomRejection (RoomPlayer × RoomTables) := do
  let t' ← RoomTables.flush { t with players := t.players ++ [player] }
  return (player, t')

/-- Join a room by its code, under a fresh identifier. -/
def joinRoomByCode (t : RoomTables) (code : String) (data : JoinRoom) (playerId : String) :
    Except RoomRejection (RoomPlayer × RoomTables) := do
  let room := t.room
  require (room.code = upper code) (httpException 404 .invalidCode)
  require (room.status = .waiting) (httpException 400 .roomNotWaiting)
  require (t.countPlayersInRoom < room.maxPlayers) (httpException 400 .roomFull)
  requireFreeName t data.playerName
  let seatNumber ← resolveJoinSeat t room data.seatNumber
  t.insertPlayer (data.player room playerId seatNumber)

/-! ## The other commands -/

/-- Create a room, under a fresh identifier and a fresh code. -/
def createRoom (data : CreateRoom) (roomId code : String) : RoomTables :=
  { room :=
      { roomId := roomId
        code := code
        name := data.name
        status := .waiting
        maxPlayers := data.maxPlayers
        startingChips := data.startingChips
        antesEnabled := data.antesEnabled
        startingDealerSeat := 1
        createdBy := data.createdBy }
    players := []
    blindLevels := [] }

/-- The assignments name different players of the room and different seats within its capacity. -/
def validateSeatAssignments (room : Room) (data : ReorderSeats) (players : List RoomPlayer) :
    Except RoomRejection Unit := do
  let playerIds : List String := data.assignments.map (·.playerId)
  let seatNumbers : List Int := data.assignments.map (·.seatNumber)
  require playerIds.Nodup (httpException 400 .duplicatePlayerAssignment)
  require seatNumbers.Nodup (httpException 400 .duplicateSeatAssignment)
  require (∀ seat ∈ seatNumbers, seat ≤ room.maxPlayers) (httpException 400 .invalidSeat)
  require (∀ playerId ∈ playerIds, playerId ∈ players.map (·.playerId))
    (httpException 400 .playerNotInRoom)

/-- Seat a player as assigned. -/
def SeatAssignment.seat (assignment : SeatAssignment) (player : RoomPlayer) : RoomPlayer :=
  { player with seatNumber := assignment.seatNumber }

/-- Seat the players as assigned. -/
def ReorderSeats.write (data : ReorderSeats) (players : List RoomPlayer) : List RoomPlayer :=
  data.assignments.foldl
    (fun players assignment => updateFirst (·.playerId) assignment.playerId assignment.seat players)
    players

/-- Reorder the seats of a room. -/
def reorderSeats (t : RoomTables) (data : ReorderSeats) : Except RoomRejection RoomTables := do
  require (t.room.status = .waiting) (httpException 400 .roomNotWaiting)
  validateSeatAssignments t.room data t.players
  RoomTables.flush { t with players := data.write t.players }

/-- Set the blind structure of a room. -/
def setBlindStructure (t : RoomTables) (data : SetBlindStructure) :
    Except RoomRejection RoomTables := do
  require (t.room.status = .waiting) (httpException 400 .roomNotWaiting)
  RoomTables.flush
    { t with
      room := { t.room with startingDealerSeat := data.startingDealerSeat }
      blindLevels := data.levels.map (·.toBlindLevel) }

/-- Activate a room that waits; an active one is left alone. -/
def activateRoom (t : RoomTables) : Except RoomRejection RoomTables :=
  if t.room.status = .active then .ok t
  else do
    require (t.room.status = .waiting) (httpException 400 .roomNotWaiting)
    RoomTables.flush { t with room := { t.room with status := .active } }

/-- Finish an active room; a finished one is left alone. -/
def finishRoom (t : RoomTables) : Except RoomRejection RoomTables :=
  if t.room.status = .finished then .ok t
  else do
    require (t.room.status = .active) (httpException 400 .roomNotActive)
    RoomTables.flush { t with room := { t.room with status := .finished } }

/-- Rewrite the row of a player of the room. -/
def RoomTables.updatePlayer (t : RoomTables) (playerId : String) (f : RoomPlayer → RoomPlayer) :
    Except RoomRejection RoomTables := do
  require (∃ p ∈ t.players, p.playerId = playerId) (httpException 404 .playerNotFound)
  RoomTables.flush { t with players := updateFirst (·.playerId) playerId f t.players }

/-- Set the chips of a player. -/
def updatePlayerChips (t : RoomTables) (playerId : String) (chipCount : Int) :
    Except RoomRejection RoomTables :=
  t.updatePlayer playerId fun p => { p with chipCount := chipCount }

/-- Eliminate a player. -/
def eliminatePlayer (t : RoomTables) (playerId : String) : Except RoomRejection RoomTables :=
  t.updatePlayer playerId fun p =>
    { p with isEliminated := true, isActive := false, chipCount := 0 }

/-! ## The machine -/

/-- The commands on a room, with the identifiers drawn for them. -/
inductive RoomCommand
  /-- Join the room by a code. -/
  | joinRoomByCode (code : String) (data : JoinRoom) (playerId : String)
  /-- Reorder the seats. -/
  | reorderSeats (data : ReorderSeats)
  /-- Set the blind structure. -/
  | setBlindStructure (data : SetBlindStructure)
  /-- Activate the room. -/
  | activateRoom
  /-- Finish the room. -/
  | finishRoom
  /-- Set the chips of a player, to an amount that is not negative. -/
  | updatePlayerChips (playerId : String) (chipCount : ℕ)
  /-- Eliminate a player. -/
  | eliminatePlayer (playerId : String)

/-- The commands on one room. -/
def roomMachine : Machine RoomTables RoomCommand RoomRejection where
  step t
    | .joinRoomByCode code data playerId => (joinRoomByCode t code data playerId).map (·.2)
    | .reorderSeats data => reorderSeats t data
    | .setBlindStructure data => setBlindStructure t data
    | .activateRoom => activateRoom t
    | .finishRoom => finishRoom t
    | .updatePlayerChips playerId chipCount => updatePlayerChips t playerId chipCount
    | .eliminatePlayer playerId => eliminatePlayer t playerId

/-! ## A join as a transaction -/

/-- What a handler of a join still has to do. -/
abbrev JoinHandler := Transaction RoomTables RoomPlayer RoomRejection

namespace JoinRoom

variable (data : JoinRoom) (room : Room) (playerId : String)

/-- Insert the player. -/
def commit (seatNumber : Int) : RoomTables → Except RoomRejection (RoomPlayer × RoomTables) :=
  fun t => t.insertPlayer (data.player room playerId seatNumber)

/-- Check the seat, and that it is not occupied. -/
def checkSeat (seatNumber : Int) : JoinHandler :=
  .check (requireCapacity room seatNumber) fun _ =>
    .read fun t => .check (requireFreeSeat t seatNumber) fun _ =>
      .commit (data.commit room playerId seatNumber)

/-- Look the highest seat up, unless one is requested. -/
def resolveSeat : JoinHandler :=
  match requestedSeat data.seatNumber with
  | some seatNumber => data.checkSeat room playerId seatNumber
  | none => .read fun t => data.checkSeat room playerId t.getNextSeatNumber

/-- Look the name up. -/
def checkName : JoinHandler :=
  .read fun t => .check (requireFreeName t data.playerName) fun _ => data.resolveSeat room playerId

/-- Count the players. -/
def countPlayers : JoinHandler :=
  .read fun t => .check
    (require (t.countPlayersInRoom < room.maxPlayers) (httpException 400 .roomFull))
    fun _ => data.checkName room playerId

/-- The handler of a join. -/
def handler (data : JoinRoom) (code : String) (playerId : String) : JoinHandler :=
  .read fun t =>
      .check (require (t.room.code = upper code) (httpException 404 .invalidCode)) fun _ =>
    .check (require (t.room.status = .waiting) (httpException 400 .roomNotWaiting)) fun _ =>
      data.countPlayers t.room playerId

end JoinRoom

/-- A handler that runs alone joins the room. -/
theorem JoinRoom.handler_exec (data : JoinRoom) (code playerId : String) (t : RoomTables) :
    (data.handler code playerId).exec t = joinRoomByCode t code data playerId := by
  have hseat : ∀ seatNumber, (data.checkSeat t.room playerId seatNumber).exec t =
      (requireCapacity t.room seatNumber >>= fun _ => requireFreeSeat t seatNumber >>= fun _ =>
        t.insertPlayer (data.player t.room playerId seatNumber)) := fun seatNumber => by
    simp only [JoinRoom.checkSeat, Transaction.exec, Transaction.exec_check]
    rfl
  unfold JoinRoom.handler JoinRoom.countPlayers JoinRoom.checkName joinRoomByCode resolveJoinSeat
  simp only [Transaction.exec, Transaction.exec_check, bind_assoc, pure_bind]
  refine bind_congr fun _ => bind_congr fun _ => bind_congr fun _ => bind_congr fun _ => ?_
  unfold JoinRoom.resolveSeat
  cases requestedSeat data.seatNumber with
  | some seatNumber => exact hseat seatNumber
  | none => exact hseat t.getNextSeatNumber

/-! ## Specification -/

variable {t t' : RoomTables} {u : Unit}

/-- A query that should find nothing finds nothing exactly when there is nothing. -/
lemma scalarOneOrNone_require_iff {α : Type} {several e : RoomRejection} {rows : List α} :
    ((scalarOneOrNone several rows).map (·.isSome) >>= fun taken =>
      require (taken = false) e) = .ok u ↔
      rows = [] := by
  match rows with
  | [] => simp [scalarOneOrNone, Except.map, bind, Except.bind, require]
  | [a] => simp [scalarOneOrNone, Except.map, bind, Except.bind, require]
  | a :: b :: l => simp [scalarOneOrNone, Except.map, bind, Except.bind]

/-- A seat is free exactly when nobody occupies it. -/
lemma requireFreeSeat_eq_ok_iff {seatNumber : Int} :
    requireFreeSeat t seatNumber = .ok u ↔ ∀ p ∈ t.players, p.seatNumber ≠ seatNumber := by
  unfold requireFreeSeat RoomTables.seatNumberExistsInRoom
  rw [scalarOneOrNone_require_iff, List.filter_eq_nil_iff]
  simp

/-- A name is free exactly when nobody bears it. -/
lemma requireFreeName_eq_ok_iff {playerName : String} :
    requireFreeName t playerName = .ok u ↔ ∀ p ∈ t.players, p.playerName ≠ playerName := by
  unfold requireFreeName RoomTables.playerNameExistsInRoom
  rw [scalarOneOrNone_require_iff, List.filter_eq_nil_iff]
  simp

/-- The next seat has a positive number where the occupied ones have. -/
lemma getNextSeatNumber_pos (h : ∀ p ∈ t.players, 1 ≤ p.seatNumber) : 1 ≤ t.getNextSeatNumber := by
  unfold RoomTables.getNextSeatNumber
  cases hmax : (t.players.map (·.seatNumber)).max? with
  | none => decide
  | some seat =>
    obtain ⟨p, hp, hseat⟩ := List.mem_map.mp (List.max?_eq_some_iff.mp hmax).1
    have hpos := h p hp
    simp only [Option.getD_some]
    omega

/-- The insertion of a player. -/
lemma insertPlayer_eq_ok_iff {player player' : RoomPlayer} :
    t.insertPlayer player = .ok (player', t') ↔
      player' = player ∧ t'.Constraints ∧ t' = { t with players := t.players ++ [player] } := by
  unfold RoomTables.insertPlayer
  simp only [bind_eq_ok_iff, RoomTables.flush_eq_ok_iff]
  constructor
  · rintro ⟨t'', ⟨hcons, rfl⟩, hret⟩
    obtain ⟨rfl, rfl⟩ := Prod.mk.inj (Except.ok.inj hret)
    exact ⟨rfl, hcons, rfl⟩
  · rintro ⟨rfl, hcons, rfl⟩
    exact ⟨_, ⟨hcons, rfl⟩, rfl⟩

/-- What an accepted join has passed, and what it does. -/
structure Joined (t : RoomTables) (data : JoinRoom) (player : RoomPlayer) (t' : RoomTables) :
    Prop where
  /-- The room waits. -/
  status : t.room.status = .waiting
  /-- There is a place left. -/
  not_full : t.players.length < t.room.maxPlayers
  /-- The name is the requested one. -/
  name : player.playerName = data.playerName
  /-- The name is free. -/
  name_free : ∀ p ∈ t.players, p.playerName ≠ player.playerName
  /-- The seat is the requested one, or else the next one. -/
  seat : player.seatNumber = (requestedSeat data.seatNumber).getD t.getNextSeatNumber
  /-- The seat is within the capacity. -/
  seat_le : player.seatNumber ≤ t.room.maxPlayers
  /-- The seat is free. -/
  seat_free : ∀ p ∈ t.players, p.seatNumber ≠ player.seatNumber
  /-- The constraints hold afterwards. -/
  constraints : t'.Constraints
  /-- The rows afterwards. -/
  after : t' = { t with players := t.players ++ [player] }

/-- An accepted join. -/
lemma joined_of_ok {code playerId : String} {data : JoinRoom} {player : RoomPlayer}
    (h : joinRoomByCode t code data playerId = .ok (player, t')) : Joined t data player t' := by
  simp only [joinRoomByCode, resolveJoinSeat, requireCapacity, bind_eq_ok_iff, require_eq_ok_iff,
    requireFreeName_eq_ok_iff, requireFreeSeat_eq_ok_iff, insertPlayer_eq_ok_iff] at h
  obtain ⟨-, -, -, hstatus, -, hfull, -, hname, seat, ⟨-, hle, -, hfree, hseat⟩, rfl,
    hcons, hafter⟩ := h
  obtain rfl := Except.ok.inj hseat
  exact ⟨hstatus, hfull, rfl, hname, rfl, hle, hfree, hcons, hafter⟩

/-- What an accepted reordering has passed, and what it does. -/
structure Reordered (t : RoomTables) (data : ReorderSeats) (t' : RoomTables) : Prop where
  /-- The room waits. -/
  status : t.room.status = .waiting
  /-- Nobody is seated twice. -/
  playerIds_nodup : (data.assignments.map (·.playerId)).Nodup
  /-- No seat is assigned twice. -/
  seatNumbers_nodup : (data.assignments.map (·.seatNumber)).Nodup
  /-- The assigned seats are within the capacity. -/
  seat_le : ∀ a ∈ data.assignments, a.seatNumber ≤ t.room.maxPlayers
  /-- The players are in the room. -/
  mem_players : ∀ a ∈ data.assignments, ∃ p ∈ t.players, p.playerId = a.playerId
  /-- The constraints hold afterwards. -/
  constraints : t'.Constraints
  /-- The rows afterwards. -/
  after : t' = { t with players := data.write t.players }

/-- An accepted reordering. -/
lemma reordered_of_ok {data : ReorderSeats} (h : reorderSeats t data = .ok t') :
    Reordered t data t' := by
  simp only [reorderSeats, validateSeatAssignments, bind_eq_ok_iff, require_eq_ok_iff,
    RoomTables.flush_eq_ok_iff] at h
  obtain ⟨-, hstatus, -, ⟨-, hplayers, -, hseats, -, hle, hmem⟩, hcons, rfl⟩ := h
  rw [List.forall_mem_map] at hle hmem
  exact ⟨hstatus, hplayers, hseats, hle, fun a ha => List.mem_map.mp (hmem a ha), hcons, rfl⟩

/-- What identifies a player of a room to the others: his identifier, name and seat. -/
def RoomPlayer.place (p : RoomPlayer) : String × String × Int :=
  (p.playerId, p.playerName, p.seatNumber)

/-- What an accepted command does. -/
inductive RoomStep (t : RoomTables) : RoomCommand → RoomTables → Prop
  /-- A player joins. -/
  | joined {code : String} {data : JoinRoom} {playerId : String} {player : RoomPlayer}
    {t' : RoomTables} (h : Joined t data player t') :
    RoomStep t (.joinRoomByCode code data playerId) t'
  /-- The seats are reordered. -/
  | reordered {data : ReorderSeats} {t' : RoomTables} (h : Reordered t data t') :
    RoomStep t (.reorderSeats data) t'
  /-- The players and their places stay. -/
  | kept {c : RoomCommand} {t' : RoomTables} (hc : ∀ data, c ≠ .reorderSeats data)
    (hroom : t'.room.maxPlayers = t.room.maxPlayers)
    (hplaces : t'.players.map (·.place) = t.players.map (·.place)) : RoomStep t c t'

/-- An accepted update of a player keeps the places. -/
lemma updatePlayer_kept {playerId : String} {f : RoomPlayer → RoomPlayer}
    (hf : ∀ p, (f p).place = p.place) (h : t.updatePlayer playerId f = .ok t') :
    t'.Constraints ∧ t'.room = t.room ∧ t'.players.map (·.place) = t.players.map (·.place) := by
  simp only [RoomTables.updatePlayer, bind_eq_ok_iff, RoomTables.flush_eq_ok_iff] at h
  obtain ⟨-, -, hcons, rfl⟩ := h
  exact ⟨hcons, rfl, map_updateFirst_of_eq _ hf⟩

/-- An accepted command does one of these. -/
theorem room_step_cases {c : RoomCommand} (ht : t.Constraints) (h : roomMachine.step t c = .ok t') :
    RoomStep t c t' ∧ t'.Constraints := by
  cases c with
  | joinRoomByCode code data playerId =>
    obtain ⟨⟨player, t''⟩, hjoin, rfl⟩ := map_eq_ok_iff.mp h
    have hjoined := joined_of_ok hjoin
    exact ⟨.joined hjoined, hjoined.constraints⟩
  | reorderSeats data =>
    have hreordered := reordered_of_ok h
    exact ⟨.reordered hreordered, hreordered.constraints⟩
  | setBlindStructure data =>
    simp only [roomMachine, setBlindStructure, bind_eq_ok_iff, RoomTables.flush_eq_ok_iff] at h
    obtain ⟨-, -, hcons, rfl⟩ := h
    exact ⟨.kept (by simp) rfl rfl, hcons⟩
  | activateRoom =>
    simp only [roomMachine, activateRoom] at h
    split at h
    · obtain rfl := Except.ok.inj h
      exact ⟨.kept (by simp) rfl rfl, ht⟩
    · simp only [bind_eq_ok_iff, RoomTables.flush_eq_ok_iff] at h
      obtain ⟨-, -, hcons, rfl⟩ := h
      exact ⟨.kept (by simp) rfl rfl, hcons⟩
  | finishRoom =>
    simp only [roomMachine, finishRoom] at h
    split at h
    · obtain rfl := Except.ok.inj h
      exact ⟨.kept (by simp) rfl rfl, ht⟩
    · simp only [bind_eq_ok_iff, RoomTables.flush_eq_ok_iff] at h
      obtain ⟨-, -, hcons, rfl⟩ := h
      exact ⟨.kept (by simp) rfl rfl, hcons⟩
  | updatePlayerChips playerId chipCount =>
    obtain ⟨hcons, hroom, hplaces⟩ := updatePlayer_kept
      (f := fun p => { p with chipCount := chipCount }) (fun _ => rfl) h
    exact ⟨.kept (by simp) (by rw [hroom]) hplaces, hcons⟩
  | eliminatePlayer playerId =>
    obtain ⟨hcons, hroom, hplaces⟩ := updatePlayer_kept
      (f := fun p => { p with isEliminated := true, isActive := false, chipCount := 0 })
      (fun _ => rfl) h
    exact ⟨.kept (by simp) (by rw [hroom]) hplaces, hcons⟩

/-! ## A room for two players -/

/-- The room for two players. -/
def roomForTwo : CreateRoom where
  maxPlayers := 2
  startingChips := 100
  createdBy := "Alice"
  two_le_maxPlayers := by decide
  maxPlayers_le := by decide
  startingChips_pos := by decide
  createdBy_ne := by decide

/-- The request of a player who joins, with the seat he asks for. -/
def joinAs (name : String) (seat : Option Int) (hname : name ≠ "" := by decide)
    (hseat : ∀ s ∈ seat, 1 ≤ s := by decide) : JoinRoom :=
  ⟨name, seat, hname, hseat⟩

/-- Alice joins and asks for no seat. -/
def aliceJoins : JoinRoom := joinAs "Alice" none

/-- Bob joins and asks for no seat. -/
def bobJoins : JoinRoom := joinAs "Bob" none

/-- A level with blinds of one and two chips. -/
def firstLevel : BlindLevelInput where
  level := 1
  smallBlind := 1
  bigBlind := 2
  ante := 0
  durationMinutes := 10
  level_pos := le_rfl
  smallBlind_pos := by decide
  bigBlind_pos := by decide
  ante_nonneg := Int.zero_le_ofNat _
  durationMinutes_pos := by decide

/-- The blind structure with this level only. -/
def singleLevel : SetBlindStructure where
  levels := [firstLevel]
  levels_ne := by decide
  startingDealerSeat_pos := le_rfl

end PokerRoom
