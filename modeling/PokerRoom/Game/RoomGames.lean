import PokerRoom.Game.ChipConservation

/-!
# The games of a room

`start_game` refuses to start a game in a room that has an active one; a paused game is no obstacle,
and `resume_table` makes it active again without looking at the other games of its room.
`one_running_game_iff` says that this is the only way to a second running game.
-/

namespace PokerRoom

open Foundation

/-! ## The machine -/

/-- The uniqueness constraints on the rows of all games. -/
structure GamesConstraints (games : List GameTables) : Prop where
  /-- Games are distinct. -/
  gameIds : (games.map (·.game.gameId)).Nodup
  /-- Rounds are distinct. -/
  roundIds : (games.flatMap fun g => g.rounds.map (·.round.roundId)).Nodup
  /-- Bets are distinct. -/
  betIds : (games.flatMap fun g => g.rounds.flatMap fun r => r.bets.map (·.betId)).Nodup
  /-- Ledger entries are distinct. -/
  entryIds : (games.flatMap fun g => g.rounds.flatMap fun r => r.ledger.map (·.entryId)).Nodup

instance : DecidablePred GamesConstraints := fun games =>
  decidable_of_iff
    ((games.map (·.game.gameId)).Nodup ∧
      (games.flatMap fun g => g.rounds.map (·.round.roundId)).Nodup ∧
      (games.flatMap fun g => g.rounds.flatMap fun r => r.bets.map (·.betId)).Nodup ∧
      (games.flatMap fun g => g.rounds.flatMap fun r => r.ledger.map (·.entryId)).Nodup)
    ⟨fun ⟨h₁, h₂, h₃, h₄⟩ => ⟨h₁, h₂, h₃, h₄⟩, fun ⟨h₁, h₂, h₃, h₄⟩ => ⟨h₁, h₂, h₃, h₄⟩⟩

/-- Write the rows of all games; the transaction is rolled back when they violate a constraint. -/
def flushGames (games : List GameTables) : Except Rejection (List GameTables) :=
  if GamesConstraints games then .ok games else .error .integrityError

/-- A game of the room is active. -/
def RunsIn (roomId : String) (g : GameTables) : Prop :=
  g.game.roomId = roomId ∧ g.game.status = .active

instance (roomId : String) : DecidablePred (RunsIn roomId) := fun g =>
  inferInstanceAs (Decidable (g.game.roomId = roomId ∧ _))

/-- The active game of a room. -/
def getActiveGameForRoom (games : List GameTables) (roomId : String) :
    Except Rejection (Option GameTables) :=
  scalarOneOrNone .multipleResultsFound (games.filter fun g => RunsIn roomId g)

/-- The row of the active game of a room, as the room is shown. -/
def getGameForRoom (games : List GameTables) (roomId : String) : Except Rejection (Option Game) :=
  scalarOneOrNone .multipleResultsFound ((games.filter fun g => RunsIn roomId g).map (·.game))

/-- The commands on the games of all rooms. -/
inductive ServiceCommand
  /-- Start a game in the room of the configuration. -/
  | startGame (roomConfig : RoomConfig) (activated : Except Rejection Unit) (gameId : String)
    (now : Int)
  /-- A command on a game. -/
  | onGame (gameId : String) (c : GameCommand)

/-- Why a command on a missing game is rejected. -/
def GameCommand.gameMissing : GameCommand → Rejection
  | .round _ c _ => c.roundMissing
  | _ => notFound .gameNotFound

/-- The commands on the games of all rooms. -/
def serviceMachine : Machine (List GameTables) ServiceCommand Rejection where
  step games
    | .startGame roomConfig activated gameId now => do
      let existing ← getActiveGameForRoom games roomConfig.roomId
      let g ← startGame (existing.map (·.game)) roomConfig activated gameId now
      flushGames (games ++ [g])
    | .onGame gameId c =>
      match games.find? fun g => g.game.gameId = gameId with
      | none => .error c.gameMissing
      | some g => do
        let g' ← gameMachine.step g c
        flushGames (updateFirst (·.game.gameId) gameId (fun _ => g') games)

/-- The number of active games of a room. -/
def runningCount (roomId : String) (games : List GameTables) : ℕ :=
  (games.filter fun g => RunsIn roomId g).length

/-- At most one game of the room is active, and the lookups of the active game do not find two. -/
structure OneRunning (roomId : String) (games : List GameTables) : Prop where
  /-- The active games. -/
  count_le : runningCount roomId games ≤ 1
  /-- The lookup before a game is started. -/
  lookup : getActiveGameForRoom games roomId ≠ .error .multipleResultsFound
  /-- The lookup of the game that is shown. -/
  shown : getGameForRoom games roomId ≠ .error .multipleResultsFound

/-- The command resumes a game of the room while a game of the room is active. -/
def ResumesBeside (roomId : String) (games : List GameTables) : ServiceCommand → Prop
  | .onGame gameId .resumeTable =>
    (∃ g ∈ games, g.game.gameId = gameId ∧ g.game.roomId = roomId) ∧ ∃ g ∈ games, RunsIn roomId g
  | _ => False

instance (roomId : String) (games : List GameTables) : DecidablePred (ResumesBeside roomId games) :=
  fun c => by
    unfold ResumesBeside
    split <;> infer_instance

variable {games games' : List GameTables} {roomId gameId : String} {g g' : GameTables}
    {c : GameCommand}

/-- A flush that succeeds writes the rows it was given, and they satisfy the constraints. -/
lemma flushGames_eq_ok_iff :
    flushGames games = .ok games' ↔ GamesConstraints games ∧ games' = games := by
  unfold flushGames
  split
  · next h => simp [h, eq_comm]
  · next h => simp [h]

/-- The lookups of the active game find two exactly when there are two. -/
lemma oneRunning_iff : OneRunning roomId games ↔ runningCount roomId games ≤ 1 :=
  ⟨OneRunning.count_le, fun h => ⟨h, scalarOneOrNone_ne_error_iff.mpr h,
    scalarOneOrNone_ne_error_iff.mpr (by rwa [List.length_map])⟩⟩

/-! ## One command -/

/-- Replacing the rows of a game changes the number of active games by that game. -/
lemma runningCount_update (roomId : String) (h : GamesConstraints games) (hg : g ∈ games)
    (g' : GameTables) :
    (runningCount roomId (updateFirst (·.game.gameId) g.game.gameId (fun _ => g') games) : ℤ) =
      runningCount roomId games +
        ((if RunsIn roomId g' then 1 else 0) - if RunsIn roomId g then 1 else 0) :=
  length_filter_updateFirst h.gameIds hg rfl

/-- An accepted start of a game appends one to the games of a room none of which is active. -/
lemma startGame_cases {roomConfig : RoomConfig} {activated : Except Rejection Unit} {now : Int}
    (h : serviceMachine.step games (.startGame roomConfig activated gameId now) = .ok games') :
    ∃ g, games' = games ++ [g] ∧ GamesConstraints games' ∧ g.game.roomId = roomConfig.roomId ∧
      runningCount roomConfig.roomId games = 0 := by
  obtain ⟨existing, hexisting, h⟩ := bind_eq_ok_iff.mp h
  obtain ⟨g, hstart, hflush⟩ := bind_eq_ok_iff.mp h
  obtain ⟨hcons, rfl⟩ := flushGames_eq_ok_iff.mp hflush
  obtain rfl := Option.map_eq_none_iff.mp (existing_of_startGame hstart)
  refine ⟨g, rfl, hcons, (gameStarted_of_startGame hstart).room, ?_⟩
  rw [runningCount, scalarOneOrNone_eq_none_iff.mp hexisting]
  rfl

/-- An accepted command on a game replaces its rows. -/
lemma onGame_cases (h : serviceMachine.step games (.onGame gameId c) = .ok games') :
    ∃ g g', g ∈ games ∧ g.game.gameId = gameId ∧ gameMachine.step g c = .ok g' ∧
      games' = updateFirst (·.game.gameId) g.game.gameId (fun _ => g') games ∧
      GamesConstraints games' := by
  simp only [serviceMachine] at h
  split at h
  · cases h
  · next g hfind =>
    obtain ⟨g', hstep, hflush⟩ := bind_eq_ok_iff.mp h
    obtain ⟨hcons, rfl⟩ := flushGames_eq_ok_iff.mp hflush
    obtain ⟨hg, hid⟩ : g ∈ games ∧ g.game.gameId = gameId := mem_of_find?_key hfind
    exact ⟨g, g', hg, hid, hstep, by rw [hid], hcons⟩

/-- An accepted command on the games keeps the constraints. -/
lemma GamesConstraints.of_ok {c : ServiceCommand} (h : serviceMachine.step games c = .ok games') :
    GamesConstraints games' := by
  cases c with
  | startGame roomConfig activated gameId now =>
    obtain ⟨g, -, hcons, -⟩ := startGame_cases h
    exact hcons
  | onGame gameId c =>
    obtain ⟨g, g', -, -, -, -, hcons⟩ := onGame_cases h
    exact hcons

/-- No game of the room is active exactly when there are none to count. -/
lemma runningCount_eq_zero_iff : runningCount roomId games = 0 ↔
    ¬ ∃ g ∈ games, RunsIn roomId g := by
  rw [runningCount, List.length_eq_zero_iff, List.filter_eq_nil_iff]
  simp

/-- Starting a game keeps at most one running. -/
lemma OneRunning.started (hone : OneRunning roomId games) {roomConfig : RoomConfig}
    {activated : Except Rejection Unit} {now : Int}
    (h : serviceMachine.step games (.startGame roomConfig activated gameId now) = .ok games') :
    OneRunning roomId games' := by
  obtain ⟨g, rfl, -, hroom, hzero⟩ := startGame_cases h
  have hcount : runningCount roomId (games ++ [g]) =
      runningCount roomId games + runningCount roomId [g] := by
    simp only [runningCount, List.filter_append, List.length_append]
  rw [oneRunning_iff, hcount]
  by_cases hsame : roomConfig.roomId = roomId
  · rw [← hsame, hzero, zero_add]
    exact List.length_filter_le _ [g]
  · have hother : runningCount roomId [g] = 0 := by
      rw [runningCount_eq_zero_iff]
      rintro ⟨g', hg', hruns⟩
      rw [List.mem_singleton.mp hg'] at hruns
      exact hsame (hroom.symm.trans hruns.1)
    rw [hother, add_zero]
    exact hone.count_le

/-- A command that resumes nothing keeps at most one running. -/
lemma OneRunning.kept (hcons : GamesConstraints games) (hone : OneRunning roomId games)
    (h : serviceMachine.step games (.onGame gameId c) = .ok games') (hc : c ≠ .resumeTable) :
    OneRunning roomId games' := by
  obtain ⟨g, g', hg, -, hstep, rfl, -⟩ := onGame_cases h
  obtain ⟨-, hroom, hactive⟩ := game_eq_of_ok hstep
  have hruns : RunsIn roomId g' → RunsIn roomId g := fun hruns =>
    ⟨hroom.symm.trans hruns.1, (hactive hruns.2).resolve_right fun hresumes => hc hresumes.1⟩
  have hcount := runningCount_update roomId hcons hg g'
  have hle := hone.count_le
  rw [oneRunning_iff]
  by_cases hafter : RunsIn roomId g'
  · rw [if_pos hafter, if_pos (hruns hafter)] at hcount
    omega
  · rw [if_neg hafter] at hcount
    split at hcount <;> omega

/-- Resuming a game keeps at most one running exactly when no game of its room is active. -/
lemma OneRunning.resumed_iff (hcons : GamesConstraints games) (hone : OneRunning roomId games)
    (h : serviceMachine.step games (.onGame gameId .resumeTable) = .ok games') :
    OneRunning roomId games' ↔ ¬ ResumesBeside roomId games (.onGame gameId .resumeTable) := by
  obtain ⟨g, g', hg, hid, hstep, rfl, -⟩ := onGame_cases h
  obtain ⟨-, hroom, -⟩ := game_eq_of_ok hstep
  obtain ⟨hpaused, hactive⟩ := status_of_resumeTable hstep
  have hcount := runningCount_update roomId hcons hg g'
  have hbefore : ¬ RunsIn roomId g := fun hruns => absurd (hpaused.symm.trans hruns.2) (by decide)
  have hle := hone.count_le
  rw [if_neg hbefore] at hcount
  rw [oneRunning_iff, ResumesBeside]
  by_cases hsame : g.game.roomId = roomId
  · rw [if_pos ⟨hroom.trans hsame, hactive⟩] at hcount
    have hzero : runningCount roomId games = 0 ↔ ¬ ∃ q ∈ games, RunsIn roomId q :=
      runningCount_eq_zero_iff
    rw [and_iff_right ⟨g, hg, hid, hsame⟩, ← hzero]
    omega
  · rw [if_neg fun hruns => hsame (hroom.symm.trans hruns.1)] at hcount
    refine iff_of_true (by omega) ?_
    rintro ⟨⟨q, hq, hqid, hqroom⟩, -⟩
    obtain rfl : q = g := eq_of_key_eq hcons.gameIds hq hg (hqid.trans hid.symm)
    exact hsame hqroom

/-- An accepted command keeps at most one running exactly when it resumes none beside an active
game. -/
lemma OneRunning.step_iff {c : ServiceCommand} (hcons : GamesConstraints games)
    (hone : OneRunning roomId games) (h : serviceMachine.step games c = .ok games') :
    OneRunning roomId games' ↔ ¬ ResumesBeside roomId games c := by
  cases c with
  | startGame roomConfig activated gameId now => exact iff_of_true (hone.started h) id
  | onGame gameId c =>
    by_cases hc : c = .resumeTable
    · subst hc
      exact hone.resumed_iff hcons h
    · refine iff_of_true (hone.kept hcons h hc) ?_
      unfold ResumesBeside
      split
      · next heq => cases heq; exact absurd rfl hc
      · exact id

/-! ## Every run -/

/-- **When a room has one running game.** In every run of the commands on the games of all rooms, at
most one game of a room is active in each state it goes through exactly when no game of the room is
resumed while a game of the room is active. -/
theorem one_running_game_iff (roomId : String) (cs : List ServiceCommand) :
    (∀ k, OneRunning roomId (serviceMachine.run [] (cs.take k))) ↔
      ∀ t ∈ serviceMachine.trace [] cs, ¬ ResumesBeside roomId t.before t.command := by
  have hcons : GamesConstraints [] := by decide
  have hone : OneRunning roomId [] := oneRunning_iff.mpr (by simp [runningCount])
  exact Machine.forall_run_take_iff (M := serviceMachine)
    (P := fun t => ¬ ResumesBeside roomId t.before t.command)
    (fun _ _ _ _ hok => .of_ok hok) (fun _ _ _ hcons hone hok => hone.step_iff hcons hok)
    hcons hone cs

/-- A game is paused, and another one is started in its room. -/
def secondGame : List ServiceCommand :=
  [.startGame headsUpRoom.toRoomConfig (.ok ()) "first" 0, .onGame "first" .pauseTable,
    .startGame headsUpRoom.toRoomConfig (.ok ()) "second" 0]

/-- The first game may be resumed while the second one is running, and the lookup of the active game
finds two. -/
theorem resumed_beside_running_game :
    ¬ ∀ (roomId : String) (cs : List ServiceCommand),
      OneRunning roomId (serviceMachine.run [] cs) := by
  intro h
  have hone := h "room" (secondGame ++ [.onGame "first" .resumeTable])
  exact hone.lookup (by decide)

end PokerRoom
