import PokerRoom.Room.Rows
import PokerRoom.Game.RoomGames

/-!
# The game service and the room service

`start_game` and `end_game` of `application/commands/game_command_service.py` call the room service:
they read the configuration of a room and set its status over HTTP
(`infrastructure/room_config.py`).  The room service has a database of its own, so a call that has
taken effect there stays when the transaction of the game service is rolled back.

`platformMachine` runs the commands of both services one after another.
-/

namespace PokerRoom

open Foundation

/-! ## Calls of the room service -/

/-- What becomes of a call over HTTP. -/
inductive Delivery
  /-- It is carried out and answered. -/
  | answered
  /-- It is not carried out, and the caller gets no answer. -/
  | requestLost
  /-- It is carried out, but the caller gets no answer. -/
  | replyLost
deriving DecidableEq, Repr

/-- The changes of status the game service asks for. -/
inductive RoomAction
  | activate | finish
deriving DecidableEq, Repr

/-- The word of an action in the path of its request. -/
def RoomAction.value : RoomAction → String
  | .activate => "activate"
  | .finish => "finish"

/-- The command of the room service behind an action. -/
def RoomAction.perform : RoomAction → RoomTables → Except RoomRejection RoomTables
  | .activate => activateRoom
  | .finish => finishRoom

/-- Replace the rows of a room. -/
def putRoom (t : RoomTables) (rooms : List RoomTables) : List RoomTables :=
  updateFirst (·.room.roomId) t.room.roomId (fun _ => t) rooms

/-- The room service changes the status of a room. -/
def updateRoomStatus (rooms : List RoomTables) (roomId : String) (action : RoomAction) :
    Except RoomRejection (List RoomTables) :=
  match rooms.find? fun t => t.room.roomId = roomId with
  | none => .error (httpException 404 .roomNotFound)
  | some t => (action.perform t).map fun t' => putRoom t' rooms

/-- The exception of a call that was not answered, or answered with an error of the server. -/
def RoomAction.failed (action : RoomAction) : Rejection :=
  .http 502 ("Failed to " ++ action.value ++ " room in room-service")

/-- The exception an answer of the room service is turned into.  Other exceptions than HTTP ones are
answered as errors of the server. -/
def RoomAction.rejection (action : RoomAction) : RoomRejection → Rejection
  | .http statusCode detail =>
    if statusCode = 404 then notFound .roomNotFound
    else if 500 ≤ statusCode then action.failed
    else .http statusCode detail
  | _ => action.failed

/-- Ask the room service to change the status of a room. -/
def postRoomStatusUpdate (rooms : List RoomTables) (roomId : String) (action : RoomAction)
    (delivery : Delivery) : Except Rejection Unit × List RoomTables :=
  match delivery with
  | .requestLost => (.error action.failed, rooms)
  | .answered =>
    match updateRoomStatus rooms roomId action with
    | .ok rooms' => (.ok (), rooms')
    | .error e => (.error (action.rejection e), rooms)
  | .replyLost =>
    match updateRoomStatus rooms roomId action with
    | .ok rooms' => (.error action.failed, rooms')
    | .error _ => (.error action.failed, rooms)

/-- A player as the game service reads him. -/
def RoomPlayer.config (p : RoomPlayer) : PlayerConfig :=
  { playerId := p.playerId
    seatNumber := p.seatNumber
    chipCount := p.chipCount
    isActive := p.isActive
    isEliminated := p.isEliminated }

/-- A blind level as the game service reads it. -/
def BlindLevel.config (bl : BlindLevel) : BlindLevelConfig :=
  { level := bl.level
    smallBlind := bl.smallBlind
    bigBlind := bl.bigBlind
    ante := bl.ante
    durationMinutes := some bl.durationMinutes }

/-- A room as the game service reads it: the players by seat and the blind levels by number. -/
def RoomTables.roomConfig (t : RoomTables) : RoomConfig :=
  { roomId := t.room.roomId
    startingDealerSeat := t.room.startingDealerSeat
    antesEnabled := t.room.antesEnabled
    players := (bySeat (·.seatNumber) t.players).map (·.config)
    blindLevels := (bySeat (·.level) t.blindLevels).map (·.config) }

/-- Read the configuration of a room. -/
def fetchRoomConfigHttp (rooms : List RoomTables) (roomId : String) : Except Rejection RoomConfig :=
  match rooms.find? fun t => t.room.roomId = roomId with
  | none => .error (notFound .roomNotFound)
  | some t => .ok t.roomConfig

/-! ## The stores of both services -/

/-- The outbox row of a started game. -/
structure StartedEvent where
  /-- Identifier of the event. -/
  eventId : String
  /-- The game. -/
  gameId : String
  /-- The room. -/
  roomId : String
  /-- The first positions. -/
  positions : Positions
  /-- The first blind level. -/
  blindLevel : Int
deriving DecidableEq, Repr

/-- What the two services store: the games with their snapshots and rounds, the outbox rows of the
started games, and the rooms. -/
structure Platform where
  /-- The games of the game service. -/
  games : List GameTables
  /-- The outbox rows of the started games. -/
  outbox : List StartedEvent
  /-- The rooms of the room service. -/
  rooms : List RoomTables
deriving DecidableEq, Repr

/-- Where the database or the network fails during a start of a game. -/
inductive StartFault
  /-- Before the room is activated. -/
  | beforeActivation
  /-- The activation is not carried out. -/
  | activationLost
  /-- The activation is carried out, but not answered. -/
  | activationUnanswered
  /-- When the rows are written. -/
  | flush
  /-- When the transaction is committed. -/
  | commit
  /-- When the committed row is read again. -/
  | refresh
deriving DecidableEq, Repr

/-- What becomes of the activation of the room. -/
def StartFault.delivery : Option StartFault → Delivery
  | some .activationLost => .requestLost
  | some .activationUnanswered => .replyLost
  | _ => .answered

/-- The database or the network does not fail at a point. -/
def requireNoFault (fault : Option StartFault) (point : StartFault) (e : Rejection) :
    Except Rejection Unit :=
  require (fault ≠ some point) e

/-! ## Starting a game -/

/-- A call of `start_game`, with the identifiers drawn and the time taken for it. -/
structure StartGame where
  /-- The room. -/
  roomId : String
  /-- The identifier drawn for the game. -/
  gameId : String
  /-- The identifier drawn for its event. -/
  eventId : String
  /-- The time. -/
  now : Int
  /-- Where the database or the network fails, if anywhere. -/
  fault : Option StartFault := none
deriving DecidableEq, Repr

/-- The checks of a start, up to the activation of the room. -/
def Platform.prepareGame (s : Platform) (call : StartGame) : Except Rejection GameTables := do
  requireNoFault call.fault .beforeActivation .operationalError
  let existing ← getActiveGameForRoom s.games call.roomId
  require (existing = none) (.domain ⟨.gameAlreadyExists, ErrorMessage.gameAlreadyExists.value⟩)
  let roomConfig ← fetchRoomConfigHttp s.rooms call.roomId
  require (roomConfig.blindLevels ≠ []) (notFound .noBlindLevels)
  require (2 ≤ roomConfig.activeSeats.length) (gameNotActive .activePlayersRequired)
  match assignPositions roomConfig.activeSeats roomConfig.startingDealerSeat with
  | none => .error .indexError
  | some positions => return startedGame roomConfig positions call.gameId call.now

/-- The event of a started game. -/
def StartGame.event (call : StartGame) (g : GameTables) : StartedEvent :=
  { eventId := call.eventId
    gameId := call.gameId
    roomId := call.roomId
    positions := g.game.positions
    blindLevel := 1 }

/-- Write the rows of a started game and its event, and commit them. -/
def Platform.writeGame (s : Platform) (call : StartGame) (g : GameTables) :
    Except Rejection (List GameTables × List StartedEvent) := do
  requireNoFault call.fault .flush .operationalError
  let g ← g.flush
  let games ← flushGames (s.games ++ [g])
  let outbox := s.outbox ++ [call.event g]
  require (outbox.map (·.eventId)).Nodup .integrityError
  requireNoFault call.fault .commit .operationalError
  return (games, outbox)

/-- Start a game in a room.  An activation that has taken effect stays when the rows are not
written. -/
def Platform.startGame (s : Platform) (call : StartGame) : Except Rejection Game × Platform :=
  match s.prepareGame call with
  | .error e => (.error e, s)
  | .ok g =>
    let (activated, rooms) :=
      postRoomStatusUpdate s.rooms call.roomId .activate (StartFault.delivery call.fault)
    match activated.bind fun _ => s.writeGame call g with
    | .error e => (.error e, { s with rooms := rooms })
    | .ok (games, outbox) =>
      ((requireNoFault call.fault .refresh .operationalError).map fun _ => g.game,
        { games := games, outbox := outbox, rooms := rooms })

/-! ## Ending a game -/

/-- End a game, and its room with it. -/
def Platform.endGame (s : Platform) (gameId : String) (delivery : Delivery) :
    Except Rejection Unit × Platform :=
  match s.games.find? fun g => g.game.gameId = gameId with
  | none => (.error (notFound .gameNotFound), s)
  | some g =>
    let (finished, rooms) := postRoomStatusUpdate s.rooms g.game.roomId .finish delivery
    match serviceMachine.step s.games (.onGame gameId (.endGame finished)) with
    | .error e => (.error e, { s with rooms := rooms })
    | .ok games => (.ok (), { s with games := games, rooms := rooms })

/-! ## The machine -/

/-- The commands of both services. -/
inductive PlatformCommand
  /-- Create a room. -/
  | createRoom (data : CreateRoom) (roomId code : String)
  /-- A command on a room. -/
  | onRoom (roomId : String) (c : RoomCommand)
  /-- Start a game. -/
  | startGame (call : StartGame)
  /-- A command on a game that does not end it. -/
  | onGame (gameId : String) (c : GameCommand) (hc : ∀ finished, c ≠ .endGame finished)
  /-- End a game. -/
  | endGame (gameId : String) (delivery : Delivery)

/-- The commands of both services.  A start or an end of a game leaves its effects also when it
fails. -/
def platformMachine : Machine Platform PlatformCommand (Rejection ⊕ RoomRejection) where
  step s
    | .createRoom data roomId code =>
      if (∀ t ∈ s.rooms, t.room.roomId ≠ roomId) ∧ ∀ t ∈ s.rooms, t.room.code ≠ code then
        .ok { s with rooms := s.rooms ++ [createRoom data roomId code] }
      else .error (.inr .integrityError)
    | .onRoom roomId c =>
      match s.rooms.find? fun t => t.room.roomId = roomId with
      | none => .error (.inr (httpException 404 .roomNotFound))
      | some t =>
        match roomMachine.step t c with
        | .error e => .error (.inr e)
        | .ok t' => .ok { s with rooms := putRoom t' s.rooms }
    | .startGame call => .ok (s.startGame call).2
    | .onGame gameId c _ =>
      match serviceMachine.step s.games (.onGame gameId c) with
      | .error e => .error (.inl e)
      | .ok games => .ok { s with games := games }
    | .endGame gameId delivery => .ok (s.endGame gameId delivery).2

/-- Nothing is stored yet. -/
def Platform.empty : Platform := ⟨[], [], []⟩

/-! ## What a start checks -/

/-- The checks of a start pass in a room. -/
structure Platform.Startable (s : Platform) (t : RoomTables) (call : StartGame) : Prop where
  /-- Nothing fails before the activation. -/
  reachable : call.fault ≠ some .beforeActivation
  /-- The room is found. -/
  found : (s.rooms.find? fun t => t.room.roomId = call.roomId) = some t
  /-- No game of the room is active. -/
  noneRunning : ∀ g ∈ s.games, ¬ RunsIn call.roomId g
  /-- There is a blind structure. -/
  levels : t.blindLevels ≠ []
  /-- At least two players take part. -/
  players : 2 ≤ (t.players.filter fun p => p.config.plays).length

variable {s s' : Platform} {t t' : RoomTables} {call : StartGame} {g : GameTables}

/-- A room has as many active seats as players who take part. -/
lemma length_activeSeats_roomConfig (t : RoomTables) :
    t.roomConfig.activeSeats.length = (t.players.filter fun p => p.config.plays).length := by
  rw [RoomConfig.activeSeats, List.length_map, RoomConfig.activePlayers, bySeat_perm.length_eq,
    RoomTables.roomConfig, List.filter_map, List.length_map]
  exact (bySeat_perm.filter _).length_eq

/-- The game service reads blind levels exactly when the room has some. -/
lemma blindLevels_roomConfig_ne_nil :
    t.roomConfig.blindLevels ≠ [] ↔ t.blindLevels ≠ [] := by
  have hlength : t.roomConfig.blindLevels.length = t.blindLevels.length := by
    rw [RoomTables.roomConfig, List.length_map, bySeat_perm.length_eq]
  rw [← List.length_pos_iff, ← List.length_pos_iff, hlength]

/-- A start passes its checks exactly when the room can be started. -/
lemma prepareGame_eq_ok_iff :
    s.prepareGame call = .ok g ↔ ∃ t positions, s.Startable t call ∧
      assignPositions t.roomConfig.activeSeats t.room.startingDealerSeat = some positions ∧
      g = startedGame t.roomConfig positions call.gameId call.now := by
  unfold Platform.prepareGame requireNoFault getActiveGameForRoom fetchRoomConfigHttp
  simp only [bind_eq_ok_iff, require_eq_ok_iff]
  constructor
  · rintro ⟨-, hreach, existing, hexisting, -, rfl, roomConfig, hfetch, -, hlevels, -, htwo, h⟩
    split at hfetch
    · cases hfetch
    · next t hfind =>
      obtain rfl := Except.ok.inj hfetch
      split at h
      · cases h
      · next positions hpositions =>
        rw [scalarOneOrNone_eq_none_iff, List.filter_eq_nil_iff] at hexisting
        refine ⟨t, positions, ⟨hreach, hfind, by simpa using hexisting,
          blindLevels_roomConfig_ne_nil.mp hlevels, ?_⟩, hpositions, (Except.ok.inj h).symm⟩
        rwa [← length_activeSeats_roomConfig]
  · rintro ⟨t, positions, hstart, hpositions, rfl⟩
    refine ⟨(), hstart.reachable, none, ?_, (), rfl, t.roomConfig, ?_, (),
      blindLevels_roomConfig_ne_nil.mpr hstart.levels, (), ?_, ?_⟩
    · rw [scalarOneOrNone_eq_none_iff, List.filter_eq_nil_iff]
      simpa using hstart.noneRunning
    · rw [hstart.found]
    · rw [length_activeSeats_roomConfig]
      exact hstart.players
    · have hpositions' : assignPositions t.roomConfig.activeSeats
          t.roomConfig.startingDealerSeat = some positions := hpositions
      rw [hpositions']
      rfl

/-- A room that can be started has first positions. -/
lemma Platform.Startable.exists_prepared (h : s.Startable t call) :
    ∃ positions, s.prepareGame call =
      .ok (startedGame t.roomConfig positions call.gameId call.now) := by
  have hne : t.roomConfig.activeSeats ≠ [] := by
    intro hnil
    have htwo := h.players
    rw [← length_activeSeats_roomConfig, hnil] at htwo
    simp at htwo
  obtain ⟨positions, hpositions⟩ :=
    Option.isSome_iff_exists.mp (positions_isSome hne t.room.startingDealerSeat).1
  exact ⟨positions, prepareGame_eq_ok_iff.mpr ⟨t, positions, h, hpositions, rfl⟩⟩

/-- The rows of a started game are written exactly when nothing fails and the constraints hold. -/
lemma writeGame_eq_ok_iff {written : List GameTables × List StartedEvent} :
    s.writeGame call g = .ok written ↔
      (call.fault ≠ some .flush ∧ call.fault ≠ some .commit) ∧
        (g.Constraints ∧ GamesConstraints (s.games ++ [g]) ∧
          ((s.outbox ++ [call.event g]).map (·.eventId)).Nodup) ∧
        written = (s.games ++ [g], s.outbox ++ [call.event g]) := by
  unfold Platform.writeGame requireNoFault
  simp only [bind_eq_ok_iff, require_eq_ok_iff, GameTables.flush_eq_ok_iff, flushGames_eq_ok_iff]
  constructor
  · rintro ⟨-, hflush, g', ⟨hg, rfl⟩, games, ⟨hgames, rfl⟩, -, hids, -, hcommit, hret⟩
    exact ⟨⟨hflush, hcommit⟩, ⟨hg, hgames, hids⟩, (Except.ok.inj hret).symm⟩
  · rintro ⟨⟨hflush, hcommit⟩, ⟨hg, hgames, hids⟩, rfl⟩
    exact ⟨(), hflush, g, ⟨hg, rfl⟩, _, ⟨hgames, rfl⟩, (), hids, (), hcommit, rfl⟩

/-- A started game is started as the game service alone starts it. -/
lemma serviceStep_of_writeGame (hprepared : s.prepareGame call = .ok g)
    {games : List GameTables} {outbox : List StartedEvent}
    (hwritten : s.writeGame call g = .ok (games, outbox)) :
    ∃ roomConfig, serviceMachine.step s.games
      (.startGame roomConfig (.ok ()) call.gameId call.now) = .ok games := by
  obtain ⟨t, positions, hstart, hpositions, rfl⟩ := prepareGame_eq_ok_iff.mp hprepared
  obtain ⟨-, ⟨hg, hgames, -⟩, heq⟩ := writeGame_eq_ok_iff.mp hwritten
  obtain ⟨rfl, rfl⟩ := Prod.mk.inj heq
  have hroom : t.room.roomId = call.roomId := by simpa using List.find?_some hstart.found
  have hlevels := blindLevels_roomConfig_ne_nil.mpr hstart.levels
  have htwo : 2 ≤ t.roomConfig.activeSeats.length := by
    rw [length_activeSeats_roomConfig]
    exact hstart.players
  have hnone : getActiveGameForRoom s.games t.roomConfig.roomId = .ok none := by
    rw [getActiveGameForRoom, scalarOneOrNone_eq_none_iff, List.filter_eq_nil_iff]
    simpa [RoomTables.roomConfig, hroom] using hstart.noneRunning
  refine ⟨t.roomConfig, bind_eq_ok_iff.mpr ⟨none, hnone, bind_eq_ok_iff.mpr
    ⟨startedGame t.roomConfig positions call.gameId call.now, ?_,
      flushGames_eq_ok_iff.mpr ⟨hgames, rfl⟩⟩⟩⟩
  have hpositions' : assignPositions t.roomConfig.activeSeats t.roomConfig.startingDealerSeat =
      some positions := hpositions
  unfold startGame
  simp only [Option.map_none, require_of hlevels, require_of htwo, hpositions']
  exact GameTables.flush_eq_ok_iff.mpr ⟨hg, rfl⟩

/-! ## What the calls do -/

/-- The command of the room service that performs an action. -/
def RoomAction.command : RoomAction → RoomCommand
  | .activate => .activateRoom
  | .finish => .finishRoom

/-- The rows of all rooms that were written by their commands. -/
structure RoomsSound (rooms : List RoomTables) : Prop where
  /-- Rooms are distinct. -/
  roomIds : (rooms.map (·.room.roomId)).Nodup
  /-- The rows of each room. -/
  rooms : ∀ t ∈ rooms, t.Sound

/-- At most one room is changed, by an accepted command. -/
def RoomsStep (rooms rooms' : List RoomTables) : Prop :=
  rooms' = rooms ∨
    ∃ t ∈ rooms, ∃ c t', roomMachine.step t c = .ok t' ∧ rooms' = putRoom t' rooms

/-- A room is finished. -/
def RoomFinished (rooms : List RoomTables) (roomId : String) : Prop :=
  ∃ t ∈ rooms, t.room.roomId = roomId ∧ t.room.status = .finished

instance (rooms : List RoomTables) (roomId : String) : Decidable (RoomFinished rooms roomId) :=
  inferInstanceAs (Decidable (∃ t ∈ rooms, _))

variable {rooms rooms' : List RoomTables} {roomId gameId : String} {action : RoomAction}
  {delivery : Delivery}

/-- An action is a command on the room. -/
lemma RoomAction.perform_eq (action : RoomAction) (t : RoomTables) :
    action.perform t = roomMachine.step t action.command := by
  cases action with
  | activate => rfl
  | finish => rfl

/-- The room service changes the status of a room that is found. -/
lemma updateRoomStatus_eq_ok_iff :
    updateRoomStatus rooms roomId action = .ok rooms' ↔
      ∃ t t', (rooms.find? fun t => t.room.roomId = roomId) = some t ∧
        action.perform t = .ok t' ∧ rooms' = putRoom t' rooms := by
  unfold updateRoomStatus
  split
  · next hnone => simp [hnone]
  · next t hfind =>
    rw [map_eq_ok_iff]
    simp only [hfind, Option.some.injEq]
    constructor
    · rintro ⟨t', hperform, rfl⟩
      exact ⟨t, t', rfl, hperform, rfl⟩
    · rintro ⟨t, t', rfl, hperform, rfl⟩
      exact ⟨t', hperform, rfl⟩

/-- A call that is answered with success has taken effect. -/
lemma postRoomStatusUpdate_fst_iff {u : Unit} :
    (postRoomStatusUpdate rooms roomId action delivery).1 = .ok u ↔
      delivery = .answered ∧ updateRoomStatus rooms roomId action =
        .ok (postRoomStatusUpdate rooms roomId action delivery).2 := by
  cases delivery with
  | requestLost => simp [postRoomStatusUpdate]
  | answered =>
    cases h : updateRoomStatus rooms roomId action <;> simp [postRoomStatusUpdate, h]
  | replyLost =>
    cases h : updateRoomStatus rooms roomId action <;> simp [postRoomStatusUpdate, h]

/-- A call changes at most the status of one room. -/
lemma postRoomStatusUpdate_snd :
    RoomsStep rooms (postRoomStatusUpdate rooms roomId action delivery).2 := by
  have hupdate : ∀ rooms', updateRoomStatus rooms roomId action = .ok rooms' →
      RoomsStep rooms rooms' := by
    intro rooms' h
    obtain ⟨t, t', hfind, hperform, rfl⟩ := updateRoomStatus_eq_ok_iff.mp h
    exact Or.inr ⟨t, List.mem_of_find?_eq_some hfind, action.command, t',
      (action.perform_eq t) ▸ hperform, rfl⟩
  unfold postRoomStatusUpdate
  cases delivery with
  | requestLost => exact Or.inl rfl
  | answered | replyLost =>
    dsimp only
    split
    · next h => exact hupdate _ h
    · exact Or.inl rfl

/-- A step keeps the rooms sound, and the finished rooms finished. -/
lemma RoomsStep.keeps (h : RoomsSound rooms) (hstep : RoomsStep rooms rooms') :
    RoomsSound rooms' ∧ ∀ roomId, RoomFinished rooms roomId → RoomFinished rooms' roomId := by
  rcases hstep with rfl | ⟨t, ht, c, t', hok, rfl⟩
  · exact ⟨h, fun _ => id⟩
  · obtain ⟨hsound, hsame⟩ := (h.rooms t ht).step hok
    have hids : (putRoom t' rooms).map (·.room.roomId) = rooms.map (·.room.roomId) :=
      map_key_updateFirst fun _ => rfl
    refine ⟨⟨hids ▸ h.roomIds, forall_updateFirst h.rooms fun _ _ _ => hsound⟩, ?_⟩
    rintro roomId ⟨q, hq, hid, hfinished⟩
    by_cases hqt : q = t
    · subst hqt
      refine ⟨t', (mem_updateFirst_iff h.roomIds).mpr (Or.inl ⟨q, hq, hsame.roomId.symm, rfl⟩),
        hsame.roomId.trans hid, hsame.finished hfinished⟩
    · refine ⟨q, (mem_updateFirst_iff h.roomIds).mpr (Or.inr ⟨hq, fun heq => hqt ?_⟩), hid,
        hfinished⟩
      exact eq_of_key_eq h.roomIds hq ht (heq.trans hsame.roomId)

end PokerRoom
