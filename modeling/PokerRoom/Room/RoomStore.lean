import PokerRoom.Application.RoomDatabase
import PokerRoom.Foundation.Projection
import PokerRoom.Room.Rows

/-!
# The rooms of the database

What the tables of the room service hold for one room is a `RoomTables`, and the tables of all rooms
together are a store of such rooms: a command that is carried out creates a room, carries out a
command of `roomMachine` on one room, or deletes one (`RoomServiceCommand.roomEvents`).

`rooms_run_alone` follows every room through a run of the service: from its creation on it is run by
the commands on it alone, whatever happens to the other rooms.
-/

namespace PokerRoom

open Foundation

/-! ## What is stored for one room -/

namespace RoomDatabase

/-- The players of a room. -/
def playersOf (db : RoomDatabase) (roomId : String) : List RoomPlayer :=
  ownedBy (·.roomId) (·.toRoomPlayer) roomId db.players

/-- The blind levels of a room. -/
def blindLevelsOf (db : RoomDatabase) (roomId : String) : List BlindLevel :=
  ownedBy (·.roomId) (·.toBlindLevel) roomId db.blindLevels

/-- What is stored for a room, if there is one. -/
def tables (db : RoomDatabase) (roomId : String) : Option RoomTables :=
  (db.rooms.find? fun room => room.roomId = roomId).map fun room =>
    ⟨room, db.playersOf roomId, db.blindLevelsOf roomId⟩

/-- The rows are those that the commands have written. -/
structure Valid (db : RoomDatabase) : Prop where
  /-- The uniqueness constraints. -/
  constraints : db.Constraints
  /-- Every player belongs to a stored room. -/
  players : ∀ p ∈ db.players, p.roomId ∈ db.rooms.map (·.roomId)
  /-- Every blind level belongs to a stored room. -/
  blindLevels : ∀ level ∈ db.blindLevels, level.roomId ∈ db.rooms.map (·.roomId)
  /-- The codes are made as codes are. -/
  codes : ∀ room ∈ db.rooms, ∃ code : RoomCode, code.value = room.code

variable {db db' : RoomDatabase} {room : Room} {roomId playerId : String} {t : RoomTables}

/-- What is stored for a room that there is. -/
lemma tables_of_mem (h : db.Constraints) (hroom : room ∈ db.rooms) :
    db.tables room.roomId = some ⟨room, db.playersOf room.roomId,
      db.blindLevelsOf room.roomId⟩ := by
  rw [tables, (find?_key_eq_some_iff h.1).mpr ⟨hroom, rfl⟩, Option.map_some]

/-- Something is stored for a room exactly when there is one. -/
lemma tables_eq_some_iff (h : db.Constraints) : db.tables roomId = some t ↔
    ∃ room ∈ db.rooms, room.roomId = roomId ∧
      t = ⟨room, db.playersOf roomId, db.blindLevelsOf roomId⟩ := by
  constructor
  · intro ht
    obtain ⟨room, hfind, rfl⟩ := Option.map_eq_some_iff.mp ht
    obtain ⟨hroom, hid⟩ := mem_of_find?_key hfind
    exact ⟨room, hroom, hid, rfl⟩
  · rintro ⟨room, hroom, rfl, rfl⟩
    exact tables_of_mem h hroom

/-- The players of a room are those that are stored for it. -/
lemma playersOf_of_tables (ht : db.tables roomId = some t) : db.playersOf roomId = t.players := by
  obtain ⟨room, -, rfl⟩ := Option.map_eq_some_iff.mp ht
  rfl

/-- The rows of one room satisfy its constraint. -/
lemma constraints_tables (h : db.Constraints) (ht : db.tables roomId = some t) : t.Constraints := by
  obtain ⟨room, -, -, rfl⟩ := (tables_eq_some_iff h).mp ht
  exact nodup_map_ownedBy (fun _ => rfl) h.2.2

/-! ## Queries -/

/-- The room with an identifier. -/
lemma fetchRoom_eq_ok_iff (h : db.Constraints) :
    db.fetchRoom roomId = .ok room ↔ room ∈ db.rooms ∧ room.roomId = roomId := by
  simp only [fetchRoom, bind_eq_ok_iff, found_eq_ok_iff, exists_eq_right,
    scalarOneOrNone_eq_some_iff,
    filter_key_eq_singleton_iff h.1]

/-- The player with an identifier. -/
lemma fetchPlayer_eq_ok_iff (h : db.Constraints) {p : RoomPlayerRow} :
    db.fetchPlayer playerId = .ok p ↔ p ∈ db.players ∧ p.playerId = playerId := by
  simp only [fetchPlayer, bind_eq_ok_iff, found_eq_ok_iff, exists_eq_right,
    scalarOneOrNone_eq_some_iff,
    filter_key_eq_singleton_iff h.2.2]

/-- The room with a code. -/
lemma getRoomByCode_eq_ok_iff (h : db.Constraints) {code : String} :
    db.getRoomByCode code = .ok (some room) ↔ room ∈ db.rooms ∧ room.code = upper code := by
  rw [getRoomByCode, scalarOneOrNone_eq_some_iff, filter_key_eq_singleton_iff h.2.1]

/-- The players of a room are counted there. -/
lemma countPlayersInRoom_eq (room : Room) (levels : List BlindLevel) :
    db.countPlayersInRoom roomId =
      (⟨room, db.playersOf roomId, levels⟩ : RoomTables).countPlayersInRoom := by
  rw [countPlayersInRoom, RoomTables.countPlayersInRoom, playersOf, ownedBy, List.length_map]

/-- The next seat of a room is found there. -/
lemma getNextSeatNumber_eq (room : Room) (levels : List BlindLevel) :
    db.getNextSeatNumber roomId =
      (⟨room, db.playersOf roomId, levels⟩ : RoomTables).getNextSeatNumber := by
  rw [getNextSeatNumber, RoomTables.getNextSeatNumber, playersOf, ownedBy, List.map_map]
  rfl

/-- A query that looks for a player of a room looks among the players of the room. -/
lemma isSome_scalarOneOrNone_playersOf {P : RoomPlayer → Prop} [DecidablePred P] :
    (scalarOneOrNone RoomRejection.multipleResultsFound
      (db.players.filter fun p => p.roomId = roomId ∧ P p.toRoomPlayer)).map (·.isSome) =
    (scalarOneOrNone .multipleResultsFound ((db.playersOf roomId).filter fun p => P p)).map
      (·.isSome) := by
  rw [playersOf, filter_ownedBy, ownedBy, List.filter_filter, map_isSome_scalarOneOrNone_map]
  simp only [Bool.decide_and]

/-- A seat of a room is occupied there. -/
lemma seatNumberExistsInRoom_eq (room : Room) (levels : List BlindLevel) {seatNumber : Int} :
    db.seatNumberExistsInRoom roomId seatNumber =
      (⟨room, db.playersOf roomId, levels⟩ : RoomTables).seatNumberExistsInRoom seatNumber :=
  isSome_scalarOneOrNone_playersOf (P := fun p => p.seatNumber = seatNumber)

/-- A name in a room is taken there. -/
lemma playerNameExistsInRoom_eq (room : Room) (levels : List BlindLevel) {playerName : String} :
    db.playerNameExistsInRoom roomId playerName =
      (⟨room, db.playersOf roomId, levels⟩ : RoomTables).playerNameExistsInRoom playerName :=
  isSome_scalarOneOrNone_playersOf (P := fun p => p.playerName = playerName)

/-- Rows that satisfy the constraints are committed. -/
lemma commit_eq_ok_iff : db.commit = .ok db' ↔ db.Constraints ∧ db' = db := by
  unfold commit
  split
  · next h => simp [h, eq_comm]
  · next h => simp [h]

/-! ## Writes -/

/-- Nothing of one room is changed where its rows are the same. -/
lemma tables_congr {j : String}
    (hrooms : (db'.rooms.find? fun room => room.roomId = j) =
      db.rooms.find? fun room => room.roomId = j)
    (hplayers : db'.playersOf j = db.playersOf j)
    (hlevels : db'.blindLevelsOf j = db.blindLevelsOf j) :
    db'.tables j = db.tables j := by
  rw [tables, tables, hrooms, hplayers, hlevels]

/-- The rows of one room are rewritten, and those of the others are not. -/
structure Rewritten (db : RoomDatabase) (roomId : String) (t t' : RoomTables) (db' : RoomDatabase) :
    Prop where
  /-- What was stored for the room. -/
  before : db.tables roomId = some t
  /-- What is stored for it now. -/
  after : db'.tables roomId = some t'
  /-- The others are left alone. -/
  others : ∀ j ≠ roomId, db'.tables j = db.tables j

/-- The rows of the rooms do not depend on the outbox. -/
lemma Rewritten.addOutboxEvent {t' : RoomTables} (h : Rewritten db roomId t t' db')
    (event : RoomEvent) :
    Rewritten db roomId t t' (db'.addOutboxEvent event) :=
  ⟨h.before, h.after, h.others⟩

/-- A command is carried out on one room, and writes events. -/
structure CarriedOut (db : RoomDatabase) (roomId : String) (c : RoomCommand) (t t' : RoomTables)
    (events : List RoomEvent) (db' : RoomDatabase) : Prop where
  /-- The rows stay valid. -/
  valid : db'.Valid
  /-- The rows of the room are rewritten. -/
  rewritten : Rewritten db roomId t t' db'
  /-- They are rewritten as the command does it on the room alone. -/
  step : roomMachine.step t c = .ok t'
  /-- The events are written into the outbox. -/
  outbox : db'.outbox = db.outbox ++ events

/-- A command that is carried out on one room does that to the store of rooms. -/
lemma CarriedOut.apply {c : RoomCommand} {t' : RoomTables} {events : List RoomEvent}
    (h : CarriedOut db roomId c t t' events db') :
    roomMachine.apply db.tables (.acted roomId c) = db'.tables :=
  Machine.apply_acted h.rewritten.before h.step h.rewritten.after h.rewritten.others

/-- A row that is rewritten keeps its keys. -/
lemma map_roomId_writeRoom (db : RoomDatabase) (roomId : String) {f : Room → Room}
    (hf : ∀ r, (f r).roomId = r.roomId ∧ (f r).code = r.code) :
    (db.writeRoom roomId f).rooms.map (·.roomId) = db.rooms.map (·.roomId) ∧
      (db.writeRoom roomId f).rooms.map (·.code) = db.rooms.map (·.code) :=
  ⟨map_updateFirst_of_eq _ fun r => (hf r).1, map_updateFirst_of_eq _ fun r => (hf r).2⟩

/-- The row of a room is rewritten, and its blind levels may be. -/
lemma rewritten_writeRoom (h : db.Constraints) (hroom : room ∈ db.rooms) {f : Room → Room}
    (hf : ∀ r, (f r).roomId = r.roomId) (levels : List BlindLevelRow) {rows : List BlindLevel}
    (hrows : ownedBy (·.roomId) (·.toBlindLevel) room.roomId levels = rows)
    (hothers : ∀ j ≠ room.roomId, ownedBy (·.roomId) (·.toBlindLevel) j levels =
      db.blindLevelsOf j) :
    Rewritten db room.roomId ⟨room, db.playersOf room.roomId, db.blindLevelsOf room.roomId⟩
      ⟨f room, db.playersOf room.roomId, rows⟩
      (writeRoom { db with blindLevels := levels } room.roomId f) where
  before := tables_of_mem h hroom
  after := by
    rw [tables, writeRoom, find?_updateFirst hf, if_pos rfl,
      (find?_key_eq_some_iff h.1).mpr ⟨hroom, rfl⟩,
      ← hrows]
    rfl
  others := fun j hj =>
    tables_congr (by rw [writeRoom, find?_updateFirst hf, if_neg hj]) rfl (hothers j hj)

/-- Rows of players are rewritten that all belong to one room. -/
lemma rewritten_players (h : db.Constraints) (hroom : room ∈ db.rooms)
    {players : List RoomPlayerRow} {rows : List RoomPlayer} (outbox : List RoomEvent)
    (hrows : ownedBy (·.roomId) (·.toRoomPlayer) room.roomId players = rows)
    (hothers : ∀ j ≠ room.roomId, ownedBy (·.roomId) (·.toRoomPlayer) j players = db.playersOf j) :
    Rewritten db room.roomId ⟨room, db.playersOf room.roomId, db.blindLevelsOf room.roomId⟩
      ⟨room, rows, db.blindLevelsOf room.roomId⟩
        { db with players := players, outbox := outbox } where
  before := tables_of_mem h hroom
  after := by
    rw [tables, (find?_key_eq_some_iff h.1).mpr ⟨hroom, rfl⟩, Option.map_some, playersOf, hrows]
    rfl
  others := fun j hj => tables_congr rfl (hothers j hj) rfl

/-- The row of a new player is appended. -/
lemma rewritten_append_player (h : db.Constraints) (hroom : room ∈ db.rooms)
    (player : RoomPlayerRow) (hplayer : player.roomId = room.roomId) (outbox : List RoomEvent) :
    Rewritten db room.roomId ⟨room, db.playersOf room.roomId, db.blindLevelsOf room.roomId⟩
      ⟨room, db.playersOf room.roomId ++ [player.toRoomPlayer], db.blindLevelsOf room.roomId⟩
      { db with players := db.players ++ [player], outbox := outbox } := by
  refine rewritten_players h hroom outbox ?_ fun j hj => ?_
  · rw [← hplayer]
    exact ownedBy_concat.1
  · rw [← hplayer] at hj
    exact ownedBy_concat.2 j hj

/-- The row of a new room is appended. -/
lemma tables_append_room {outbox : List RoomEvent} (hnew : ∀ r ∈ db.rooms, r.roomId ≠ room.roomId)
    (hplayers : db.playersOf room.roomId = []) (hlevels : db.blindLevelsOf room.roomId = []) :
    tables { db with rooms := db.rooms ++ [room], outbox := outbox } =
      Function.update db.tables room.roomId (some ⟨room, [], []⟩) := by
  funext j
  by_cases hj : j = room.roomId
  · subst hj
    have hfind : ((db.rooms ++ [room]).find? fun r => r.roomId = room.roomId) = some room := by
      rw [List.find?_append, find?_key_eq_none_iff.mpr hnew]
      simp
    rw [Function.update_self, tables, hfind, ← hplayers, ← hlevels]
    rfl
  · rw [Function.update_of_ne hj]
    refine tables_congr ?_ rfl rfl
    rw [List.find?_append]
    simp [Ne.symm hj]

/-! ## Commands -/

/-- Rows about rooms that are still there. -/
lemma Valid.of_rooms (h : db.Valid) (hcons : db'.Constraints)
    (hrooms : db'.rooms.map (·.roomId) = db.rooms.map (·.roomId))
    (hcodes : db'.rooms.map (·.code) = db.rooms.map (·.code))
    (hplayers : ∀ p ∈ db'.players, p.roomId ∈ db.rooms.map (·.roomId))
    (hlevels : ∀ level ∈ db'.blindLevels, level.roomId ∈ db.rooms.map (·.roomId)) : db'.Valid where
  constraints := hcons
  players := by rwa [hrooms]
  blindLevels := by rwa [hrooms]
  codes := fun room hroom => by
    have hcode : room.code ∈ db.rooms.map (·.code) := hcodes ▸ List.mem_map_of_mem hroom
    obtain ⟨room', hroom', heq⟩ := List.mem_map.mp hcode
    rw [← heq]
    exact h.codes room' hroom'

/-- A code that is free is drawn. -/
lemma generateUniqueCode_cons_of_free {draw : RoomCode} {draws : List RoomCode}
    (hfree : ∀ room ∈ db.rooms, room.code ≠ draw.value) :
    db.generateUniqueCode (draw :: draws) = .ok draw := by
  have hnone : (db.rooms.filter fun room => room.code = draw.value) = [] := by
    rw [List.filter_eq_nil_iff]
    simpa using hfree
  rw [generateUniqueCode, hnone]
  rfl

/-- A code that a room has is drawn again. -/
lemma generateUniqueCode_cons_of_taken (h : db.Constraints) {draw : RoomCode}
    {draws : List RoomCode} (hroom : room ∈ db.rooms) (hcode : room.code = draw.value) :
    db.generateUniqueCode (draw :: draws) = db.generateUniqueCode draws := by
  rw [generateUniqueCode, (filter_key_eq_singleton_iff h.2.1).mpr ⟨hroom, hcode⟩]
  rfl

/-- A code that is free is found exactly when one of the draws is free. -/
lemma exists_generateUniqueCode_iff (h : db.Constraints) (draws : List RoomCode) :
    (∃ code, db.generateUniqueCode draws = .ok code ∧ ∀ room ∈ db.rooms, room.code ≠ code.value) ↔
      ∃ draw ∈ draws, ∀ room ∈ db.rooms, room.code ≠ draw.value := by
  induction draws with
  | nil => simp [generateUniqueCode]
  | cons draw draws ih =>
    by_cases hfree : ∀ room ∈ db.rooms, room.code ≠ draw.value
    · rw [generateUniqueCode_cons_of_free hfree]
      exact ⟨fun _ => ⟨draw, List.mem_cons_self, hfree⟩, fun _ => ⟨draw, rfl, hfree⟩⟩
    · rw [List.exists_mem_cons_iff, or_iff_right hfree, ← ih]
      simp only [not_forall, not_not] at hfree
      obtain ⟨room, hroom, hcode⟩ := hfree
      rw [generateUniqueCode_cons_of_taken h hroom hcode]

/-- A room is created. -/
lemma createRoom_spec (h : db.Valid) {data : CreateRoom} {draw : ℕ → RoomCode}
    (hok : db.createRoom data roomId draw = .ok db') :
    ∃ code, db.generateUniqueCode ((List.range codeAttempts).map draw) = .ok code ∧ db'.Valid ∧
      db'.outbox = db.outbox ++ [(PokerRoom.createRoom data roomId code.value).room.createdEvent] ∧
      roomMachine.apply db.tables (.created roomId (PokerRoom.createRoom data roomId code.value)) =
        db'.tables := by
  obtain ⟨code, hcode, hok⟩ := bind_eq_ok_iff.mp hok
  rw [mapError_eq_ok_iff, commit_eq_ok_iff] at hok
  obtain ⟨hcons, rfl⟩ := hok
  set room := (PokerRoom.createRoom data roomId code.value).room with hroom
  have hids := nodup_map_concat_iff.mp hcons.1
  have hnew : ∀ {i : String}, i ∈ db.rooms.map (·.roomId) → i ≠ roomId := fun hi => by
    obtain ⟨r, hr, rfl⟩ := List.mem_map.mp hi
    exact hids.2 r hr
  refine ⟨code, hcode, ⟨hcons, fun p hp => ?_, fun level hlevel => ?_, fun r hr => ?_⟩, rfl, ?_⟩
  · exact (List.map_append ▸ List.mem_append_left _ (h.players p hp))
  · exact (List.map_append ▸ List.mem_append_left _ (h.blindLevels level hlevel))
  · rcases List.mem_append.mp hr with hr | hr
    · exact h.codes r hr
    · exact ⟨code, by rw [List.mem_singleton.mp hr, hroom]; rfl⟩
  · exact (tables_append_room hids.2 (ownedBy_eq_nil fun p hp => hnew (h.players p hp))
      (ownedBy_eq_nil fun level hlevel => hnew (h.blindLevels level hlevel))).symm

/-- The seat of a player who joins is found among the players of the room. -/
lemma resolveJoinSeat_eq {levels : List BlindLevel} {requested : Option Int} :
    db.resolveJoinSeat room requested =
      PokerRoom.resolveJoinSeat ⟨room, db.playersOf room.roomId, levels⟩ room requested := by
  simp only [resolveJoinSeat, PokerRoom.resolveJoinSeat, requireFreeSeat, bind_assoc,
    getNextSeatNumber_eq room levels,
    seatNumberExistsInRoom_eq room levels]

/-- A player joins a room. -/
lemma joinRoomByCode_spec (h : db.Valid) {code : String} {data : JoinRoom}
    (hok : db.joinRoomByCode code data playerId = .ok db') :
    ∃ t seat, db.getRoomByCode code = .ok (some t.room) ∧
      CarriedOut db t.room.roomId (.joinRoomByCode code data playerId) t
        { t with players := t.players ++ [data.player t.room playerId seat] }
        [RoomPlayerRow.joinedEvent ⟨data.player t.room playerId seat, t.room.roomId⟩] db' := by
  simp only [joinRoomByCode, bind_eq_ok_iff, found_eq_ok_iff, require_eq_ok_iff,
    commit_eq_ok_iff] at hok
  obtain ⟨_, hcode, room, rfl, -, hstatus, -, hfull, taken, hname, -, hfree, seat, hseat,
    hcons, rfl⟩ := hok
  obtain ⟨hroom, hcode'⟩ := (getRoomByCode_eq_ok_iff h.constraints).mp hcode
  have hrewritten :=
    rewritten_append_player h.constraints hroom ⟨data.player room playerId seat, room.roomId⟩
    rfl (db.outbox ++ [RoomPlayerRow.joinedEvent ⟨data.player room playerId seat, room.roomId⟩])
  refine ⟨⟨room, db.playersOf room.roomId, db.blindLevelsOf room.roomId⟩, seat, hcode,
    h.of_rooms hcons rfl rfl (fun p hp => ?_) h.blindLevels, hrewritten, ?_, rfl⟩
  · rcases List.mem_append.mp hp with hp | hp
    · exact h.players p hp
    · rw [List.mem_singleton.mp hp]
      exact List.mem_map_of_mem hroom
  · refine map_eq_ok_iff.mpr ⟨(data.player room playerId seat, _), ?_, rfl⟩
    simp only [PokerRoom.joinRoomByCode, bind_eq_ok_iff, require_eq_ok_iff, insertPlayer_eq_ok_iff]
    refine ⟨(), hcode', (), hstatus, (), countPlayersInRoom_eq room _ ▸ hfull, (), ?_, seat,
      resolveJoinSeat_eq ▸ hseat, rfl, constraints_tables hcons hrewritten.after, rfl⟩
    rw [requireFreeName, ← playerNameExistsInRoom_eq room, hname]
    exact require_of hfree

/-- The assignments are validated against the players in any order. -/
lemma validateSeatAssignments_perm {data : ReorderSeats} {players players' : List RoomPlayer}
    (h : players.Perm players') :
    validateSeatAssignments room data players = validateSeatAssignments room data players' := by
  have hmem : ∀ playerId, playerId ∈ players.map (·.playerId) ↔
      playerId ∈ players'.map (·.playerId) :=
    fun _ => (h.map _).mem_iff
  simp only [validateSeatAssignments, hmem]

/-- The players of a room by their seats are its players. -/
lemma getPlayersInRoom_perm :
    ((db.getPlayersInRoom roomId).map (·.toRoomPlayer)).Perm (db.playersOf roomId) :=
  bySeat_perm.map _

/-- Seating players as assigned keeps who they are and where they belong. -/
lemma map_foldl_seatPlayer (assignments : List SeatAssignment) (players : List RoomPlayerRow) :
    (assignments.foldl seatPlayer players).map (fun p => (p.playerId, p.roomId)) =
      players.map fun p => (p.playerId, p.roomId) := by
  induction assignments generalizing players with
  | nil => rfl
  | cons assignment assignments ih =>
    rw [List.foldl_cons, ih]
    exact map_updateFirst_of_eq _ fun _ => rfl

/-- Players of a room are seated there, and the others are left alone. -/
lemma ownedBy_foldl_seatPlayer {assignments : List SeatAssignment} {players : List RoomPlayerRow}
    (hroom : ∀ a ∈ assignments, ∀ x ∈ players.map (fun p => (p.playerId, p.roomId)),
      x.1 = a.playerId → x.2 = roomId) :
    ownedBy (·.roomId) (·.toRoomPlayer) roomId (assignments.foldl seatPlayer players) =
        assignments.foldl (fun rows a => updateFirst (·.playerId) a.playerId a.seat rows)
          (ownedBy (·.roomId) (·.toRoomPlayer) roomId players) ∧
      ∀ j ≠ roomId, ownedBy (·.roomId) (·.toRoomPlayer) j (assignments.foldl seatPlayer players) =
        ownedBy (·.roomId) (·.toRoomPlayer) j players := by
  induction assignments generalizing players with
  | nil => exact ⟨rfl, fun _ _ => rfl⟩
  | cons a assignments ih =>
    have hown : ∀ p ∈ players, p.playerId = a.playerId → p.roomId = roomId := fun p hp =>
      hroom a List.mem_cons_self _ (List.mem_map_of_mem hp)
    have hrest : ∀ b ∈ assignments,
      ∀ x ∈ (seatPlayer players a).map (fun p => (p.playerId, p.roomId)),
        x.1 = b.playerId → x.2 = roomId := by
      intro b hb x hx
      rw [show (seatPlayer players a).map _ = _ from map_foldl_seatPlayer [a] players] at hx
      exact hroom b (List.mem_cons_of_mem a hb) x hx
    obtain ⟨hself, hothers⟩ := ih hrest
    refine ⟨?_, fun j hj => ?_⟩
    · rw [List.foldl_cons, hself, List.foldl_cons]
      refine congrArg (fun rows => assignments.foldl _ rows) ?_
      exact ownedBy_updateFirst (fun _ => rfl) (fun _ => rfl) (fun _ => rfl) hown
    · rw [List.foldl_cons, hothers j hj]
      exact ownedBy_updateFirst_of_ne (fun _ => rfl) fun p hp hkey =>
        (hown p hp hkey).trans_ne hj.symm

/-- The seats of a room are reordered. -/
lemma reorderSeats_spec (h : db.Valid) {data : ReorderSeats}
    (hok : db.reorderSeats roomId data = .ok db') :
    ∃ t, CarriedOut db roomId (.reorderSeats data) t { t with players := data.write t.players }
      [data.reorderedEvent roomId] db' := by
  simp only [reorderSeats, bind_eq_ok_iff, require_eq_ok_iff, commit_eq_ok_iff] at hok
  obtain ⟨room, hfetch, -, hstatus, u, hvalid, hcons, rfl⟩ := hok
  obtain ⟨hroom, rfl⟩ := (fetchRoom_eq_ok_iff h.constraints).mp hfetch
  rw [validateSeatAssignments_perm getPlayersInRoom_perm] at hvalid
  -- the assigned players are players of the room, and no other player has their identifiers
  have hown : ∀ a ∈ data.assignments, ∀ x ∈ db.players.map (fun p => (p.playerId, p.roomId)),
      x.1 = a.playerId → x.2 = room.roomId := by
    intro a ha x hx hkey
    obtain ⟨p, hp, rfl⟩ := List.mem_map.mp hx
    simp only [validateSeatAssignments, bind_eq_ok_iff, require_eq_ok_iff] at hvalid
    obtain ⟨-, -, -, -, -, -, hmem⟩ := hvalid
    obtain ⟨q, hq, hqa⟩ := List.mem_map.mp (hmem a.playerId (List.mem_map_of_mem ha))
    obtain ⟨r, hr, hrroom, rfl⟩ := mem_ownedBy_iff.mp hq
    rw [eq_of_key_eq h.constraints.2.2 hp hr (hkey.trans hqa.symm)]
    exact hrroom
  obtain ⟨hself, hothers⟩ := ownedBy_foldl_seatPlayer hown
  have hrewritten :=
    rewritten_players h.constraints hroom (db.outbox ++ [data.reorderedEvent room.roomId])
    hself hothers
  refine ⟨⟨room, db.playersOf room.roomId, db.blindLevelsOf room.roomId⟩,
    h.of_rooms hcons rfl rfl (fun p hp => ?_) h.blindLevels, hrewritten, ?_, rfl⟩
  · have hx : (p.playerId, p.roomId) ∈ db.players.map fun p => (p.playerId, p.roomId) :=
      map_foldl_seatPlayer data.assignments db.players ▸ List.mem_map_of_mem hp
    obtain ⟨q, hq, heq⟩ := List.mem_map.mp hx
    rw [← (Prod.mk.inj heq).2]
    exact h.players q hq
  · simp only [roomMachine, PokerRoom.reorderSeats, bind_eq_ok_iff, require_eq_ok_iff,
      RoomTables.flush_eq_ok_iff]
    exact ⟨(), hstatus, u, hvalid, constraints_tables hcons hrewritten.after, trivial⟩

/-- The blind structure of a room is set. -/
lemma setBlindStructure_spec (h : db.Valid) {data : SetBlindStructure}
    (hok : db.setBlindStructure roomId data = .ok db') :
    ∃ t, CarriedOut db roomId (.setBlindStructure data) t
      ⟨{ t.room with startingDealerSeat := data.startingDealerSeat }, t.players,
        data.levels.map (·.toBlindLevel)⟩ [] db' := by
  simp only [setBlindStructure, bind_eq_ok_iff, require_eq_ok_iff, commit_eq_ok_iff] at hok
  obtain ⟨room, hfetch, -, hstatus, hcons, rfl⟩ := hok
  obtain ⟨hroom, rfl⟩ := (fetchRoom_eq_ok_iff h.constraints).mp hfetch
  have hids := map_roomId_writeRoom db room.roomId
    (f := fun room => { room with startingDealerSeat := data.startingDealerSeat })
      fun _ => ⟨rfl, rfl⟩
  have hreplace : ∀ j, ownedBy (·.roomId) (·.toBlindLevel) j
      ((db.blindLevels.filter fun level => level.roomId ≠ room.roomId) ++
        data.levels.map fun level => (⟨level.toBlindLevel, room.roomId⟩ : BlindLevelRow)) =
      if j = room.roomId then data.levels.map (·.toBlindLevel) else db.blindLevelsOf j :=
    fun _ => ownedBy_replace fun _ => rfl
  have hrewritten := rewritten_writeRoom h.constraints hroom
    (f := fun room => { room with startingDealerSeat := data.startingDealerSeat }) (fun _ => rfl) _
    ((hreplace _).trans (if_pos rfl)) fun j hj => (hreplace j).trans (if_neg hj)
  refine ⟨_, h.of_rooms hcons hids.1 hids.2 h.players fun level hlevel => ?_, hrewritten, ?_,
    (List.append_nil _).symm⟩
  · rcases List.mem_append.mp hlevel with hlevel | hlevel
    · exact h.blindLevels level (List.mem_filter.mp hlevel).1
    · obtain ⟨input, -, rfl⟩ := List.mem_map.mp hlevel
      exact List.mem_map_of_mem hroom
  · simp only [roomMachine, PokerRoom.setBlindStructure, bind_eq_ok_iff, require_eq_ok_iff,
      RoomTables.flush_eq_ok_iff]
    exact ⟨(), hstatus, constraints_tables hcons hrewritten.after, trivial⟩

/-- The status of a room is changed. -/
lemma writeStatus_spec (h : db.Valid) (hroom : room ∈ db.rooms) {status : RoomStatus}
    {event : RoomEvent} {c : RoomCommand} (hok : ((db.writeRoom room.roomId
      fun r => { r with status := status }).addOutboxEvent event).commit = .ok db')
    (hstep : ∀ t, t.room = room → t.Constraints →
      roomMachine.step t c = .ok { t with room := { t.room with status := status } }) :
    ∃ t, CarriedOut db room.roomId c t { t with room := { t.room with status := status } }
        [event] db' := by
  obtain ⟨hcons, rfl⟩ := commit_eq_ok_iff.mp hok
  have hids := map_roomId_writeRoom db room.roomId
    (f := fun r => { r with status := status }) fun _ => ⟨rfl, rfl⟩
  have hrewritten :=
    rewritten_writeRoom h.constraints hroom (f := fun r => { r with status := status })
    (fun _ => rfl) db.blindLevels rfl fun _ _ => rfl
  exact ⟨_, h.of_rooms hcons hids.1 hids.2 h.players h.blindLevels, hrewritten.addOutboxEvent event,
    hstep _ rfl (constraints_tables h.constraints hrewritten.before), rfl⟩

/-- A room that has the status already is left alone. -/
lemma carriedOut_self (h : db.Valid) (hroom : room ∈ db.rooms) {c : RoomCommand}
    (hstep : ∀ t, t.room = room → roomMachine.step t c = .ok t) :
    ∃ t, CarriedOut db room.roomId c t t [] db :=
  ⟨_, h, ⟨tables_of_mem h.constraints hroom, tables_of_mem h.constraints hroom, fun _ _ => rfl⟩,
    hstep _ rfl, (List.append_nil _).symm⟩

/-- A room is activated. -/
lemma activateRoom_spec (h : db.Valid) (hok : db.activateRoom roomId = .ok db') :
    ∃ t, CarriedOut db roomId .activateRoom t t [] db' ∨
      CarriedOut db roomId .activateRoom t { t with room := { t.room with status := .active } }
        [.activated roomId .active] db' := by
  obtain ⟨room, hfetch, hok⟩ := bind_eq_ok_iff.mp hok
  obtain ⟨hroom, rfl⟩ := (fetchRoom_eq_ok_iff h.constraints).mp hfetch
  split at hok
  · next hactive =>
    obtain rfl := Except.ok.inj hok
    obtain ⟨t, ht⟩ := carriedOut_self (c := .activateRoom) h hroom fun t ht => if_pos (ht ▸ hactive)
    exact ⟨t, Or.inl ht⟩
  · next hactive =>
    obtain ⟨u, hwaiting, hok⟩ := bind_eq_ok_iff.mp hok
    rw [require_eq_ok_iff] at hwaiting
    obtain ⟨t, ht⟩ := writeStatus_spec (c := .activateRoom) h hroom hok fun t ht hcons => by
      subst ht
      refine (if_neg hactive).trans ?_
      simp only [bind_eq_ok_iff, require_eq_ok_iff, RoomTables.flush_eq_ok_iff]
      exact ⟨(), hwaiting, hcons, trivial⟩
    exact ⟨t, Or.inr ht⟩

/-- A room is finished. -/
lemma finishRoom_spec (h : db.Valid) (hok : db.finishRoom roomId = .ok db') :
    ∃ t, CarriedOut db roomId .finishRoom t t [] db' ∨
      CarriedOut db roomId .finishRoom t { t with room := { t.room with status := .finished } }
        [.finished roomId .finished] db' := by
  obtain ⟨room, hfetch, hok⟩ := bind_eq_ok_iff.mp hok
  obtain ⟨hroom, rfl⟩ := (fetchRoom_eq_ok_iff h.constraints).mp hfetch
  split at hok
  · next hfinished =>
    obtain rfl := Except.ok.inj hok
    obtain ⟨t, ht⟩ := carriedOut_self (c := .finishRoom) h hroom fun t ht => if_pos (ht ▸ hfinished)
    exact ⟨t, Or.inl ht⟩
  · next hfinished =>
    obtain ⟨u, hactive, hok⟩ := bind_eq_ok_iff.mp hok
    rw [require_eq_ok_iff] at hactive
    obtain ⟨t, ht⟩ := writeStatus_spec (c := .finishRoom) h hroom hok fun t ht hcons => by
      subst ht
      refine (if_neg hfinished).trans ?_
      simp only [bind_eq_ok_iff, require_eq_ok_iff, RoomTables.flush_eq_ok_iff]
      exact ⟨(), hactive, hcons, trivial⟩
    exact ⟨t, Or.inr ht⟩

/-- The row of a player is rewritten. -/
lemma updatePlayer_spec (h : db.Valid) {f : RoomPlayer → RoomPlayer}
    {event : RoomPlayerRow → RoomEvent} {c : RoomCommand}
    (hc : ∀ t, roomMachine.step t c = t.updatePlayer playerId f)
    (hok : db.updatePlayer playerId f event = .ok db') :
    ∃ p t, db.fetchPlayer playerId = .ok p ∧ CarriedOut db p.roomId c t
      { t with players := updateFirst (·.playerId) playerId f t.players } [event p] db' := by
  simp only [updatePlayer, bind_eq_ok_iff, commit_eq_ok_iff] at hok
  obtain ⟨p, hfetch, hcons, rfl⟩ := hok
  obtain ⟨hp, rfl⟩ := (fetchPlayer_eq_ok_iff h.constraints).mp hfetch
  obtain ⟨room, hroom, hid⟩ := List.mem_map.mp (h.players p hp)
  -- the only row with this identifier belongs to the room of the player
  have hown : ∀ q ∈ db.players, q.playerId = p.playerId → q.roomId = room.roomId :=
    fun q hq hkey => by
    rw [eq_of_key_eq h.constraints.2.2 hq hp hkey, hid]
  have hself : ownedBy (·.roomId) (·.toRoomPlayer) room.roomId (updateFirst (·.playerId) p.playerId
      (fun q : RoomPlayerRow => { q with toRoomPlayer := f q.toRoomPlayer }) db.players) =
      updateFirst (·.playerId) p.playerId f (db.playersOf room.roomId) :=
    ownedBy_updateFirst (fun _ => rfl) (fun _ => rfl) (fun _ => rfl) hown
  have hrewritten := rewritten_players h.constraints hroom (db.outbox ++ [event p]) hself
    fun j hj => ownedBy_updateFirst_of_ne (fun _ => rfl) fun q hq hkey =>
      (hown q hq hkey).trans_ne hj.symm
  refine ⟨p, ⟨room, db.playersOf p.roomId, db.blindLevelsOf p.roomId⟩, hfetch,
    h.of_rooms hcons rfl rfl ?_ h.blindLevels, hid ▸ hrewritten, ?_, rfl⟩
  · exact forall_updateFirst h.players fun q hq _ => h.players q hq
  · refine (hc _).trans (updatePlayer_eq_ok_iff.mpr ⟨?_, ?_, rfl⟩)
    · exact ⟨p.toRoomPlayer, mem_ownedBy_iff.mpr ⟨p, hp, rfl, rfl⟩, rfl⟩
    · exact constraints_tables hcons (hid ▸ hrewritten.after)

/-- A room is deleted. -/
lemma deleteRoom_spec (h : db.Valid) (hok : db.deleteRoom roomId = .ok db') :
    db'.Valid ∧ db'.outbox = db.outbox ∧
      roomMachine.apply db.tables (.deleted roomId) = db'.tables := by
  simp only [deleteRoom, bind_eq_ok_iff, commit_eq_ok_iff] at hok
  obtain ⟨room, hfetch, hcons, rfl⟩ := hok
  obtain ⟨hroom, rfl⟩ := (fetchRoom_eq_ok_iff h.constraints).mp hfetch
  have hkept : ∀ {i : String}, i ∈ db.rooms.map (·.roomId) → i ≠ room.roomId →
      i ∈ (db.rooms.filter fun r => r.roomId ≠ room.roomId).map (·.roomId) := fun hi hne => by
    obtain ⟨r, hr, rfl⟩ := List.mem_map.mp hi
    exact List.mem_map_of_mem (List.mem_filter.mpr ⟨hr, by simpa using hne⟩)
  refine ⟨⟨hcons, fun p hp => ?_, fun level hlevel => ?_, fun r hr => ?_⟩, rfl, ?_⟩
  · obtain ⟨hp, hne⟩ := List.mem_filter.mp hp
    exact hkept (h.players p hp) (by simpa using hne)
  · obtain ⟨hlevel, hne⟩ := List.mem_filter.mp hlevel
    exact hkept (h.blindLevels level hlevel) (by simpa using hne)
  · exact h.codes r (List.mem_filter.mp hr).1
  · funext j
    rw [Machine.apply]
    by_cases hj : j = room.roomId
    · subst hj
      rw [Function.update_self, tables, find?_key_eq_none_iff.mpr, Option.map_none]
      intro r hr
      simpa using (List.mem_filter.mp hr).2
    · rw [Function.update_of_ne hj]
      refine (tables_congr ?_ ?_ ?_).symm
      · rw [List.find?_filter]
        refine congrArg (fun p => List.find? p db.rooms) (funext fun r => ?_)
        by_cases hr : r.roomId = j
        · simp [hr, hj]
        · simp [hr]
      · exact ownedBy_filter_ne.trans (if_neg hj)
      · exact ownedBy_filter_ne.trans (if_neg hj)

end RoomDatabase

/-! ## The store of rooms -/

variable {db db' : RoomDatabase} {roomId : String} {t : RoomTables}

/-- What an accepted command means for the rooms. -/
def RoomServiceCommand.roomEvents (db : RoomDatabase) :
    RoomServiceCommand → List (ObjectEvent String RoomTables RoomCommand)
  | .createRoom data roomId draw =>
    match db.generateUniqueCode ((List.range codeAttempts).map draw) with
    | .ok code => [.created roomId (PokerRoom.createRoom data roomId code.value)]
    | .error _ => []
  | .joinRoomByCode code data playerId =>
    match db.getRoomByCode code with
    | .ok (some room) => [.acted room.roomId (.joinRoomByCode code data playerId)]
    | _ => []
  | .reorderSeats roomId data => [.acted roomId (.reorderSeats data)]
  | .setBlindStructure roomId data => [.acted roomId (.setBlindStructure data)]
  | .activateRoom roomId => [.acted roomId .activateRoom]
  | .finishRoom roomId => [.acted roomId .finishRoom]
  | .updatePlayerChips playerId chipCount =>
    match db.fetchPlayer playerId with
    | .ok p => [.acted p.roomId (.updatePlayerChips playerId chipCount)]
    | .error _ => []
  | .eliminatePlayer playerId =>
    match db.fetchPlayer playerId with
    | .ok p => [.acted p.roomId (.eliminatePlayer playerId)]
    | .error _ => []
  | .deleteRoom roomId => [.deleted roomId]

/-- An accepted command keeps the database valid, and does to the store of rooms what it means for
them. -/
lemma room_service_step (h : db.Valid) {c : RoomServiceCommand}
    (hok : roomServiceMachine.step db c = .ok db') :
    db'.Valid ∧ (c.roomEvents db).foldl roomMachine.apply db.tables = db'.tables := by
  cases c with
  | createRoom data roomId draw =>
    obtain ⟨code, hcode, hvalid, -, happly⟩ := db.createRoom_spec h hok
    exact ⟨hvalid, by rw [RoomServiceCommand.roomEvents, hcode]; exact happly⟩
  | joinRoomByCode code data playerId =>
    obtain ⟨t, seat, hcode, hdone⟩ := db.joinRoomByCode_spec h (mapError_eq_ok_iff.mp hok)
    exact ⟨hdone.valid, by rw [RoomServiceCommand.roomEvents, hcode]; exact hdone.apply⟩
  | reorderSeats roomId data =>
    obtain ⟨t, hdone⟩ := db.reorderSeats_spec h (mapError_eq_ok_iff.mp hok)
    exact ⟨hdone.valid, hdone.apply⟩
  | setBlindStructure roomId data =>
    obtain ⟨t, hdone⟩ := db.setBlindStructure_spec h (mapError_eq_ok_iff.mp hok)
    exact ⟨hdone.valid, hdone.apply⟩
  | activateRoom roomId =>
    obtain ⟨t, hdone | hdone⟩ := db.activateRoom_spec h (mapError_eq_ok_iff.mp hok)
    · exact ⟨hdone.valid, hdone.apply⟩
    · exact ⟨hdone.valid, hdone.apply⟩
  | finishRoom roomId =>
    obtain ⟨t, hdone | hdone⟩ := db.finishRoom_spec h (mapError_eq_ok_iff.mp hok)
    · exact ⟨hdone.valid, hdone.apply⟩
    · exact ⟨hdone.valid, hdone.apply⟩
  | updatePlayerChips playerId chipCount =>
    obtain ⟨p, t, hfetch, hdone⟩ := db.updatePlayer_spec h
      (c := .updatePlayerChips playerId chipCount) (fun _ => rfl) (mapError_eq_ok_iff.mp hok)
    exact ⟨hdone.valid, by rw [RoomServiceCommand.roomEvents, hfetch]; exact hdone.apply⟩
  | eliminatePlayer playerId =>
    obtain ⟨p, t, hfetch, hdone⟩ := db.updatePlayer_spec h
      (c := .eliminatePlayer playerId) (fun _ => rfl) (mapError_eq_ok_iff.mp hok)
    exact ⟨hdone.valid, by rw [RoomServiceCommand.roomEvents, hfetch]; exact hdone.apply⟩
  | deleteRoom roomId =>
    obtain ⟨hvalid, -, happly⟩ := db.deleteRoom_spec h (mapError_eq_ok_iff.mp hok)
    exact ⟨hvalid, happly⟩

/-- The empty database is valid. -/
lemma roomDatabase_valid_empty : RoomDatabase.empty.Valid :=
  ⟨by decide, by simp [RoomDatabase.empty], by simp [RoomDatabase.empty],
    by simp [RoomDatabase.empty]⟩

/-- Every database that the service reaches is valid. -/
lemma roomDatabase_valid (cs : List RoomServiceCommand) :
    (roomServiceMachine.run .empty cs).Valid :=
  Machine.run_invariant (fun _ _ _ h hok => (room_service_step h hok).1) roomDatabase_valid_empty cs

/-- What a run means for the rooms. -/
def roomHistory (cs : List RoomServiceCommand) : List (ObjectEvent String RoomTables RoomCommand) :=
  roomServiceMachine.events (fun db c _ => c.roomEvents db) .empty cs

/-- The tables hold the store of rooms that the history of the run has led to. -/
theorem foldl_roomHistory (cs : List RoomServiceCommand) :
    (roomHistory cs).foldl roomMachine.apply (fun _ => none) =
      (roomServiceMachine.run .empty cs).tables := by
  have hempty : RoomDatabase.empty.tables = fun _ => none := rfl
  rw [← hempty]
  exact Machine.replay_events (fun _ _ _ h hok => (room_service_step h hok).1)
    (fun _ _ _ h hok => (room_service_step h hok).2) roomDatabase_valid_empty cs

/-- Rooms are created as `createRoom` does it. -/
lemma exists_of_created_mem {c : RoomServiceCommand} (h : .created roomId t ∈ c.roomEvents db) :
    ∃ data code, t = createRoom data roomId code := by
  unfold RoomServiceCommand.roomEvents at h
  split at h
  case h_1 data _ _ =>
    split at h
    · next code _ =>
      simp only [List.mem_singleton, ObjectEvent.created.injEq] at h
      exact ⟨data, code.value, by rw [h.2, h.1]⟩
    · cases h
  case h_2 | h_7 | h_8 => split at h <;> simp at h
  all_goals simp at h

/-- **Every room is run on its own.** What the database holds for a room, after any run of the
service, is what the commands on this room alone have made of it since it was created, as
`roomMachine` runs them; the commands on other rooms have no part in it. -/
theorem rooms_run_alone (cs : List RoomServiceCommand)
    (h : (roomServiceMachine.run .empty cs).tables roomId = some t) :
    ∃ before data code ds, ((roomHistory cs).filter fun e => e.target = roomId) =
        before ++ .created roomId (createRoom data roomId code) :: ds.map (.acted roomId) ∧
      t = roomMachine.run (createRoom data roomId code) ds := by
  rw [← foldl_roomHistory] at h
  obtain ⟨before, t₀, ds, hhistory, rfl⟩ := Machine.exists_birth h
  have hmem : .created roomId t₀ ∈ (roomHistory cs).filter fun e => e.target = roomId := by
    rw [hhistory]
    exact List.mem_append_right _ List.mem_cons_self
  obtain ⟨transition, -, hevent⟩ := List.mem_flatMap.mp (List.mem_filter.mp hmem).1
  obtain ⟨data, code, rfl⟩ := exists_of_created_mem hevent
  exact ⟨before, data, code, ds, hhistory, rfl⟩

/-! ## Two rooms -/

/-- A code of one repeated character. -/
def repeatedCode (c : Char) (hc : c ∈ codeChars) : RoomCode where
  value := String.ofList (List.replicate codeLength c)
  length_eq := by rw [String.toList_ofList, List.length_replicate]
  mem_codeChars := fun d hd => by
    rw [String.toList_ofList] at hd
    exact List.eq_of_mem_replicate hd ▸ hc

/-- Two rooms are created, a player joins each of them, and the first room is deleted. -/
def twoRooms : List RoomServiceCommand :=
  [.createRoom roomForTwo "first" fun _ => repeatedCode 'A' (by decide),
    .createRoom roomForTwo "second" fun n => if n = 0 then repeatedCode 'A' (by decide) else
      repeatedCode 'B' (by decide),
    .joinRoomByCode "aaaa" aliceJoins "alice", .joinRoomByCode "BbBB" bobJoins "bob",
      .deleteRoom "first"]

example : (roomServiceMachine.run .empty twoRooms).rooms.map (·.code) = ["BBBB"] := by decide

/-- The second room holds what the join of its player has made of it. -/
theorem rooms_run_alone_twoRooms :
    ∃ before data code ds, ((roomHistory twoRooms).filter fun e => e.target = "second") =
        before ++ .created "second" (createRoom data "second" code) :: ds.map (.acted "second") ∧
      roomMachine.run (createRoom roomForTwo "second" "BBBB")
        [.joinRoomByCode "BBBB" bobJoins "bob"] =
        roomMachine.run (createRoom data "second" code) ds :=
  rooms_run_alone twoRooms (by decide)

end PokerRoom
