import PokerRoom.Game.Platform

/-!
# Runs of both services

What an accepted command of the game service and the room service does (`platform_step_cases`), and
what every run keeps: the constraints on the stored rows (`Platform.Valid`).
-/

namespace PokerRoom

open Foundation

/-! ## Definitions -/

/-- What an accepted command does. -/
inductive PlatformStep (s : Platform) : PlatformCommand → Platform → Prop
  /-- A room is created. -/
  | roomCreated {data : CreateRoom} {roomId code : String}
    (hnew : ∀ t ∈ s.rooms, t.room.roomId ≠ roomId) :
    PlatformStep s (.createRoom data roomId code)
      { s with rooms := s.rooms ++ [createRoom data roomId code] }
  /-- Only the rooms change. -/
  | rooms {c : PlatformCommand} {rooms : List RoomTables} (hrooms : RoomsStep s.rooms rooms)
    (hc : ∀ gameId d hd, c ≠ .onGame gameId d hd := by simp) :
    PlatformStep s c { s with rooms := rooms }
  /-- A game is started. -/
  | gameStarted {call : StartGame} {g : GameTables} {games : List GameTables}
    {outbox : List StartedEvent} {rooms : List RoomTables} (hprepared : s.prepareGame call = .ok g)
    (hwritten : s.writeGame call g = .ok (games, outbox)) (hrooms : RoomsStep s.rooms rooms) :
    PlatformStep s (.startGame call) ⟨games, outbox, rooms⟩
  /-- A game is played on. -/
  | onGame {gameId : String} {c : GameCommand} {hc : ∀ finished, c ≠ .endGame finished}
    {games : List GameTables}
      (hgames : serviceMachine.step s.games (.onGame gameId c) = .ok games) :
    PlatformStep s (.onGame gameId c hc) { s with games := games }
  /-- A game is ended, and its room is finished. -/
  | gameEnded {gameId : String} {delivery : Delivery} {games : List GameTables}
    {rooms : List RoomTables} {g : GameTables}
    (hfind : (s.games.find? fun g => g.game.gameId = gameId) = some g)
    (hgames : serviceMachine.step s.games (.onGame gameId (.endGame (.ok ()))) = .ok games)
    (hrooms : RoomsStep s.rooms rooms) (hfinished : RoomFinished rooms g.game.roomId) :
    PlatformStep s (.endGame gameId delivery) { s with games := games, rooms := rooms }

/-- The stored rows satisfy the constraints. -/
structure Platform.Valid (s : Platform) : Prop where
  /-- The games among each other. -/
  games : GamesConstraints s.games
  /-- The rows of each game. -/
  tables : ∀ g ∈ s.games, g.Constraints
  /-- Events are distinct. -/
  eventIds : (s.outbox.map (·.eventId)).Nodup
  /-- The rooms. -/
  rooms : RoomsSound s.rooms

variable {s s' : Platform} {c : PlatformCommand} {call : StartGame}

/-! ## One command -/

/-- A start of a game writes a game, or changes at most the rooms. -/
lemma startGame_platform_cases : PlatformStep s (.startGame call) (s.startGame call).2 := by
  have hkept : PlatformStep s (.startGame call) s := .rooms (Or.inl rfl)
  unfold Platform.startGame
  split
  · exact hkept
  · next g hprepared =>
    dsimp only
    split
    · exact .rooms postRoomStatusUpdate_snd
    · next games outbox hwritten =>
      refine .gameStarted hprepared ?_ postRoomStatusUpdate_snd
      obtain ⟨-, -, hwritten⟩ := bind_eq_ok_iff.mp hwritten
      exact hwritten

/-- A room that was finished is the same room, and it is finished. -/
lemma status_of_finishRoom {t t' : RoomTables} (h : finishRoom t = .ok t') :
    t'.room.roomId = t.room.roomId ∧ t'.room.status = .finished := by
  unfold finishRoom at h
  split at h
  · next hstatus =>
    obtain rfl := Except.ok.inj h
    exact ⟨rfl, hstatus⟩
  · simp only [bind_eq_ok_iff, RoomTables.flush_eq_ok_iff] at h
    obtain ⟨-, -, -, rfl⟩ := h
    exact ⟨rfl, rfl⟩

/-- Finishing a room with success finishes it. -/
lemma roomFinished_of_post {rooms : List RoomTables} {roomId : String} {delivery : Delivery}
    (h : (postRoomStatusUpdate rooms roomId .finish delivery).1 = .ok ()) :
    RoomFinished (postRoomStatusUpdate rooms roomId .finish delivery).2 roomId := by
  obtain ⟨-, hupdate⟩ := postRoomStatusUpdate_fst_iff.mp h
  obtain ⟨t, t', hfind, hperform, hrooms⟩ := updateRoomStatus_eq_ok_iff.mp hupdate
  obtain ⟨hsame, hstatus⟩ := status_of_finishRoom hperform
  have hid : t.room.roomId = roomId := by simpa using List.find?_some hfind
  rw [hrooms]
  exact ⟨t', mem_updateFirst_const ⟨t, List.mem_of_find?_eq_some hfind, hsame.symm⟩,
    hsame.trans hid, hstatus⟩

/-- The end of a game ends the game and its room, or changes at most the rooms. -/
lemma endGame_platform_cases {gameId : String} {delivery : Delivery} :
    PlatformStep s (.endGame gameId delivery) (s.endGame gameId delivery).2 := by
  unfold Platform.endGame
  split
  · exact .rooms (Or.inl rfl)
  · next g hfind =>
    dsimp only
    split
    · exact .rooms postRoomStatusUpdate_snd
    · next games hgames =>
      have hfinished :
          (postRoomStatusUpdate s.rooms g.game.roomId .finish delivery).1 = .ok () := by
        obtain ⟨g', g'', -, -, hend, -⟩ := onGame_cases hgames
        obtain ⟨⟨⟩, hok, -⟩ := bind_eq_ok_iff.mp hend
        exact hok
      rw [hfinished] at hgames
      exact .gameEnded hfind hgames postRoomStatusUpdate_snd (roomFinished_of_post hfinished)

/-- An accepted command does one of these. -/
theorem platform_step_cases (h : platformMachine.step s c = .ok s') : PlatformStep s c s' := by
  cases c with
  | createRoom data roomId code =>
    simp only [platformMachine] at h
    split at h
    · next hnew =>
      obtain rfl := Except.ok.inj h
      exact .roomCreated hnew.1
    · cases h
  | onRoom roomId c =>
    simp only [platformMachine] at h
    split at h
    · cases h
    · next t hfind =>
      split at h
      · cases h
      · next t' hstep =>
        obtain rfl := Except.ok.inj h
        exact .rooms (Or.inr ⟨t, List.mem_of_find?_eq_some hfind, c, t', hstep, rfl⟩)
  | startGame call =>
    obtain rfl := Except.ok.inj h
    exact startGame_platform_cases
  | onGame gameId c hc =>
    simp only [platformMachine] at h
    split at h
    · cases h
    · next games hgames =>
      obtain rfl := Except.ok.inj h
      exact .onGame hgames
  | endGame gameId delivery =>
    obtain rfl := Except.ok.inj h
    exact endGame_platform_cases

/-! ## Every run -/

/-- A command of the game service keeps the rows of each game. -/
lemma tables_of_serviceStep {games games' : List GameTables} {c : ServiceCommand}
    (htables : ∀ g ∈ games, g.Constraints) (h : serviceMachine.step games c = .ok games') :
    ∀ g ∈ games', g.Constraints := by
  cases c with
  | startGame roomConfig activated gameId now =>
    obtain ⟨existing, -, h⟩ := bind_eq_ok_iff.mp h
    obtain ⟨g, hstart, hflush⟩ := bind_eq_ok_iff.mp h
    obtain ⟨-, rfl⟩ := flushGames_eq_ok_iff.mp hflush
    rw [List.forall_mem_append, List.forall_mem_singleton]
    exact ⟨htables, (gameStarted_of_startGame hstart).constraints⟩
  | onGame gameId c =>
    obtain ⟨g, g', -, -, hstep, rfl, -⟩ := onGame_cases h
    exact forall_updateFirst htables fun _ _ _ => (game_step_cases hstep).2

/-- An accepted command keeps the constraints. -/
lemma Platform.Valid.step (hvalid : s.Valid) (h : PlatformStep s c s') : s'.Valid := by
  have hservice : ∀ {c : ServiceCommand} {games : List GameTables} {rooms : List RoomTables},
      serviceMachine.step s.games c = .ok games → RoomsStep s.rooms rooms →
      ∀ outbox : List StartedEvent, (outbox.map (·.eventId)).Nodup →
        (⟨games, outbox, rooms⟩ : Platform).Valid := fun hstep hrooms outbox houtbox =>
    ⟨.of_ok hstep, tables_of_serviceStep hvalid.tables hstep, houtbox,
      (hrooms.keeps hvalid.rooms).1⟩
  cases h with
  | @roomCreated data roomId code hnew =>
    refine ⟨hvalid.games, hvalid.tables, hvalid.eventIds, ?_, ?_⟩
    · rw [nodup_map_concat_iff]
      exact ⟨hvalid.rooms.roomIds, hnew⟩
    · rw [List.forall_mem_append, List.forall_mem_singleton]
      exact ⟨hvalid.rooms.rooms, List.nodup_nil, data.startingChips_pos.le, by simp [createRoom]⟩
  | rooms hrooms =>
    exact ⟨hvalid.games, hvalid.tables, hvalid.eventIds, (hrooms.keeps hvalid.rooms).1⟩
  | gameStarted hprepared hwritten hrooms =>
    obtain ⟨roomConfig, hstep⟩ := serviceStep_of_writeGame hprepared hwritten
    obtain ⟨-, ⟨-, -, hids⟩, heq⟩ := writeGame_eq_ok_iff.mp hwritten
    obtain ⟨rfl, rfl⟩ := Prod.mk.inj heq
    exact hservice hstep hrooms _ hids
  | onGame hgames => exact hservice hgames (Or.inl rfl) _ hvalid.eventIds
  | gameEnded hfind hgames hrooms hfinished => exact hservice hgames hrooms _ hvalid.eventIds

/-- Nothing stored satisfies the constraints. -/
lemma valid_empty : Platform.empty.Valid :=
  ⟨by decide, by simp [Platform.empty], List.nodup_nil, List.nodup_nil, by simp [Platform.empty]⟩

/-- After every run the stored rows satisfy the constraints. -/
theorem valid_run (cs : List PlatformCommand) : (platformMachine.run .empty cs).Valid :=
  Machine.run_invariant (I := Platform.Valid)
    (fun _ _ _ hvalid h => hvalid.step (platform_step_cases h)) valid_empty cs

end PokerRoom
