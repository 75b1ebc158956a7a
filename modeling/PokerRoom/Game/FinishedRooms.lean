import PokerRoom.Game.PlatformRun
import PokerRoom.Hand.Booking

/-!
# Finished games and their rooms

`end_game` asks the room service to finish the room before it finishes the game.  `resolve_hand`
finishes a game that leaves fewer than two players with chips and asks nobody.
`finished_games_finish_rooms_iff` says that this is the only way to a finished game in a room that
is not finished.
-/

namespace PokerRoom

open Foundation

/-! ## Definitions -/

/-- Every finished game has its room finished. -/
def GamesFinishRooms (s : Platform) : Prop :=
  ∀ g ∈ s.games, g.game.status = .finished → RoomFinished s.rooms g.game.roomId

instance : DecidablePred GamesFinishRooms := fun s =>
  inferInstanceAs (Decidable (∀ g ∈ s.games, _))

/-- A player of the snapshot goes on playing after payouts in a round: one of its players with the
chips he is left with, another one as before. -/
def PlayerConfig.playsAfter (p : PlayerConfig) (r : RoundTables)
    (awards : List RoundPayout) : Bool :=
  match r.players.find? fun rp => rp.playerId = p.playerId with
  | some rp => decide (0 < rp.stackRemaining + awardedTo p.playerId awards)
  | none => p.plays

/-- The players of a game who go on playing after payouts in a round. -/
def GameTables.remaining (g : GameTables) (r : RoundTables) (awards : List RoundPayout) :
    List PlayerConfig :=
  g.snapshot.players.filter fun p => p.playsAfter r awards

/-- The command settles a round of a game, which leaves fewer than two players with chips, and the
room of the game is not finished. -/
def FinishesBehindRoom (s : Platform) : PlatformCommand → Prop
  | .onGame gameId c _ => ∃ g ∈ s.games, g.game.gameId = gameId ∧
      (∃ x ∈ c.settlement? g, (g.remaining x.1 x.2.1.awards).length < 2) ∧
      ¬ RoomFinished s.rooms g.game.roomId
  | _ => False

instance (s : Platform) : DecidablePred (FinishesBehindRoom s) := fun c => by
  cases c <;> unfold FinishesBehindRoom <;> infer_instance

variable {s s' : Platform} {c : PlatformCommand} {g g' : GameTables} {r r' : RoundTables}
  {data : ResolveHandRequest} {ids : Uuids} {clock : Clock}

/-! ## The players who remain -/

/-- A player after payouts: he has gained what they award to him. -/
lemma find?_foldl_award (awards : List RoundPayout) (players : List RoundPlayer)
    (playerId : String) :
    ((awards.foldl award players).find? fun rp => rp.playerId = playerId) =
      (players.find? fun rp => rp.playerId = playerId).map fun rp =>
        { rp with stackRemaining := rp.stackRemaining + awardedTo playerId awards } := by
  induction awards generalizing players with
  | nil => simp
  | cons row awards ih =>
    have hone : (updateFirst (fun rp : RoundPlayer => rp.playerId) row.playerId
        (fun rp => { rp with stackRemaining := rp.stackRemaining + row.amount }) players).find?
          (fun rp => rp.playerId = playerId) = _ :=
      find?_updateFirst (f := fun rp : RoundPlayer =>
        { rp with stackRemaining := rp.stackRemaining + row.amount }) (fun _ => rfl) playerId
    rw [List.foldl_cons, ih, award, hone, awardedTo_cons]
    by_cases hrow : playerId = row.playerId
    · subst hrow
      rw [if_pos rfl, Option.map_map, if_pos rfl]
      congr 1
      funext rp
      simp [add_assoc]
    · rw [if_neg hrow, if_neg (Ne.symm hrow), zero_add]

/-- A row that is copied plays on exactly when there are chips left. -/
lemma plays_withStack (stack : Int) (p : PlayerConfig) :
    (p.withStack stack).plays = decide (0 < stack) := by
  rw [Bool.eq_iff_iff, PlayerConfig.plays_iff, decide_eq_true_iff]
  simp only [PlayerConfig.withStack, decide_eq_true_eq, decide_eq_false_iff_not]
  omega

/-- The seats that remain after a settlement are those of the players who remain. -/
lemma length_remainingSeats_settled (hg : g.Constraints) (hset : Settled r data ids r') :
    (remainingSeats (syncRoomSnapshotPlayersFromRound r'.players g.snapshot.players)).length =
      (g.remaining r data.awards).length := by
  have hround := hset.constraints.playerIds
  have hmap := foldl_updateFirst_eq_map
    (f := fun rp : RoundPlayer => PlayerConfig.withStack rp.stackRemaining) (fun _ _ => rfl)
    hg.snapshot.playerIds hround
  rw [remainingSeats, List.length_map, syncRoomSnapshotPlayersFromRound, hmap, List.filter_map,
    List.length_map, GameTables.remaining]
  refine congrArg List.length (List.filter_congr fun p _ => ?_)
  have hplayers : r'.players = data.awards.foldl award r.players := by rw [hset.after]; rfl
  rw [Function.comp_apply, hplayers, find?_foldl_award, PlayerConfig.playsAfter]
  cases r.players.find? fun rp => rp.playerId = p.playerId with
  | none => rfl
  | some rp => exact plays_withStack _ p

/-- Moving on finishes a game exactly when fewer than two seats remain. -/
lemma moveOn_status_eq_finished_iff (game : Game) (seats : List Int) :
    (game.moveOn seats).status = .finished ↔ seats.length < 2 ∨ game.status = .finished := by
  unfold Game.moveOn
  split
  · next htwo =>
    have hkept : ¬ seats.length < 2 := not_lt.mpr htwo
    split <;> simp [hkept]
  · next hfew => simp [not_le.mp hfew]

/-- A settlement finishes a game exactly when fewer than two players remain. -/
lemma settled_status_eq_finished_iff (hg : g.Constraints) (hset : Settled r data ids r') :
    (g.settled r r' clock).game.status = .finished ↔
      (g.remaining r data.awards).length < 2 ∨ g.game.status = .finished := by
  rw [← length_remainingSeats_settled hg hset, GameTables.settled]
  dsimp only
  rw [moveOn_status_eq_finished_iff]
  split <;> rfl

/-! ## One command -/

/-- A command on a game that does not end it finishes it exactly when it settles a round and leaves
fewer than two players. -/
lemma status_eq_finished_iff {c : GameCommand} (hg : g.Constraints)
    (hc : ∀ finished, c ≠ .endGame finished) (hok : gameMachine.step g c = .ok g') :
    g'.game.status = .finished ↔
      (∃ x ∈ c.settlement? g, (g.remaining x.1 x.2.1.awards).length < 2) ∨
        g.game.status = .finished := by
  cases (game_step_cases hok).1 with
  | started => simp [GameCommand.settlement?]
  | acted hfind hcs hstep => simp [GameCommand.settlement?, GameTables.putRound, hfind, hcs]
  | settled hcs hset => simp [hcs, settled_status_eq_finished_iff hg hset]
  | @administered _ game hadm hstatus =>
    have hnone : c.settlement? g = none := by
      cases c with
      | round => cases hadm
      | startRound | advanceBlinds | pauseTable | resumeTable | recordHandCompleted | endGame => rfl
    have hkept : game.status = .finished → g.game.status = .finished := by
      intro hfinished
      cases tableStep_of_ok hadm hok with
      | blindsAdvanced | handRecorded => exact hfinished
      | paused | resumed => cases hfinished
      | ended => exact absurd rfl (hc _)
    simp only [hnone, Option.mem_def, reduceCtorEq, false_and, exists_false, false_or]
    exact ⟨hkept, fun hfinished => by_contra fun hne => hstatus hne hfinished⟩

/-- The finished games have their rooms finished also in rooms that keep the finished ones. -/
lemma GamesFinishRooms.of_rooms (h : GamesFinishRooms s) {rooms : List RoomTables}
    (hrooms : ∀ roomId, RoomFinished s.rooms roomId → RoomFinished rooms roomId) :
    ∀ g ∈ s.games, g.game.status = .finished → RoomFinished rooms g.game.roomId :=
  fun g hg hfinished => hrooms _ (h g hg hfinished)

/-- A command on a game keeps the rooms of the finished games finished exactly when it finishes no
game behind its room. -/
lemma GamesFinishRooms.onGame_iff (hvalid : s.Valid) (h : GamesFinishRooms s) {gameId : String}
    {c : GameCommand} (hc : ∀ finished, c ≠ .endGame finished) {games : List GameTables}
    (hgames : serviceMachine.step s.games (.onGame gameId c) = .ok games) :
    GamesFinishRooms { s with games := games } ↔ ¬ FinishesBehindRoom s (.onGame gameId c hc) := by
  obtain ⟨g, g', hg, hid, hstep, rfl, -⟩ := onGame_cases hgames
  have hnd := hvalid.games.gameIds
  have hfinished := status_eq_finished_iff (hvalid.tables g hg) hc hstep
  obtain ⟨-, hroom, -⟩ := game_eq_of_ok hstep
  constructor
  · rintro hafter ⟨g₁, hg₁, hid₁, hfew, hbehind⟩
    obtain rfl : g₁ = g := eq_of_key_eq hnd hg₁ hg (hid₁.trans hid.symm)
    refine hbehind (hroom ▸ hafter g' ?_ (hfinished.mpr (Or.inl hfew)))
    exact mem_updateFirst_const ⟨g₁, hg₁, rfl⟩
  · intro hnot
    refine forall_updateFirst h fun g₁ hg₁ hid₁ hover => ?_
    obtain rfl : g₁ = g := eq_of_key_eq hnd hg₁ hg hid₁
    rw [hroom]
    rcases hfinished.mp hover with hfew | hbefore
    · exact by_contra fun hbehind => hnot ⟨g₁, hg₁, hid, hfew, hbehind⟩
    · exact h g₁ hg₁ hbefore

/-- An accepted command keeps the rooms of the finished games finished exactly when it finishes no
game behind its room. -/
lemma GamesFinishRooms.step_iff (hvalid : s.Valid) (h : GamesFinishRooms s)
    (hstep : PlatformStep s c s') : GamesFinishRooms s' ↔ ¬ FinishesBehindRoom s c := by
  cases hstep with
  | roomCreated hnew =>
    refine iff_of_true (h.of_rooms fun roomId hover => ?_) id
    obtain ⟨t, ht, hid, hfinished⟩ := hover
    exact ⟨t, List.mem_append_left _ ht, hid, hfinished⟩
  | rooms hrooms hc =>
    refine iff_of_true (h.of_rooms (hrooms.keeps hvalid.rooms).2) ?_
    cases c with
    | onGame gameId d hd => exact absurd rfl (hc gameId d hd)
    | createRoom | onRoom | startGame | endGame => exact id
  | gameStarted hprepared hwritten hrooms =>
    refine iff_of_true ?_ id
    obtain ⟨t, positions, -, -, rfl⟩ := prepareGame_eq_ok_iff.mp hprepared
    obtain ⟨-, -, heq⟩ := writeGame_eq_ok_iff.mp hwritten
    obtain ⟨rfl, -⟩ := Prod.mk.inj heq
    intro g hg
    rcases List.mem_append.mp hg with hg | hg
    · exact h.of_rooms (hrooms.keeps hvalid.rooms).2 g hg
    · rw [List.mem_singleton.mp hg]
      exact fun hover => by cases hover
  | onGame hgames => exact h.onGame_iff hvalid _ hgames
  | gameEnded hfind hgames hrooms hfinished =>
    refine iff_of_true ?_ id
    obtain ⟨hg₀, hid₀⟩ := mem_of_find?_key hfind
    obtain ⟨g, g', hg, hid, hend, rfl, -⟩ := onGame_cases hgames
    obtain rfl := eq_of_key_eq hvalid.games.gameIds hg₀ hg (hid₀.trans hid.symm)
    obtain ⟨-, hroom, -⟩ := game_eq_of_ok hend
    exact forall_updateFirst (h.of_rooms (hrooms.keeps hvalid.rooms).2) fun _ _ _ _ =>
      hroom ▸ hfinished

/-! ## Every run -/

/-- **When finished games finish their rooms.** In every run of the commands of both services, every
finished game has its room finished in each state it goes through exactly when no settlement leaves
a game fewer than two players with chips while its room is not finished. -/
theorem finished_games_finish_rooms_iff (cs : List PlatformCommand) :
    (∀ k, GamesFinishRooms (platformMachine.run .empty (cs.take k))) ↔
      ∀ t ∈ platformMachine.trace .empty cs, ¬ FinishesBehindRoom t.before t.command :=
  Machine.forall_run_take_iff (M := platformMachine)
    (P := fun t => ¬ FinishesBehindRoom t.before t.command)
    (fun _ _ _ hvalid hok => hvalid.step (platform_step_cases hok))
    (fun _ _ _ hvalid h hok => h.step_iff hvalid (platform_step_cases hok))
    valid_empty (by simp [GamesFinishRooms, Platform.empty]) cs

/-- Two players with one chip each are all in with their blinds, and one of them is declared the
winner. -/
def lastHand : List PlatformCommand :=
  [.createRoom { roomForTwo with startingChips := 1, startingChips_pos := Int.zero_lt_one }
    "room" "CODE",
    .onRoom "room" (.joinRoomByCode "CODE" aliceJoins "alice"),
    .onRoom "room" (.joinRoomByCode "CODE" bobJoins "bob"),
    .onRoom "room" (.setBlindStructure singleLevel),
    .startGame ⟨"room", "game", "event", 0, none⟩,
    .onGame "game" (.startRound controllerStart "round" headsUpIds) (by simp),
    .onGame "game" (.round "round" (.declareWinner ⟨"alice", alice_ne⟩ (named ["paid", "done"]))
      fun _ => 0) (by simp)]

/-- The game is finished, and its room is still active. -/
theorem last_hand_leaves_room_active :
    ¬ ∀ cs : List PlatformCommand, GamesFinishRooms (platformMachine.run .empty cs) := by
  intro h
  exact absurd (h lastHand) (by decide)

end PokerRoom
