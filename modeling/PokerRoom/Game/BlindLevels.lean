import PokerRoom.Game.HandCount

/-!
# The blind levels of a game

The numbers of the blind levels are chosen by the client.  `advance_blinds` raises the level to the
next configured number, while a settlement at the end of the time of a level raises it by one below
the highest number; `start_round` plays the first level when the current one is missing.
`level_configured_iff` says that the level goes missing only where the levels do not start at `1` or
a settlement runs into a gap between them.
-/

namespace PokerRoom

open Foundation

/-! ## Definitions -/

/-- The current level of a game is one of its blind structure, and the next round is played on
it. -/
def LevelConfigured (g : GameTables) : Prop :=
  ∃ bl ∈ g.snapshot.blindLevels, bl.level = g.game.currentBlindLevel ∧ g.roundLevel = some bl

instance : DecidablePred LevelConfigured := fun g =>
  inferInstanceAs (Decidable (∃ bl ∈ g.snapshot.blindLevels, _))

/-- The time of the current level is over. -/
def GameTables.LevelOver (g : GameTables) (now : Int) : Prop :=
  ∃ bl ∈ g.snapshot.blindLevel g.game.currentBlindLevel, ∃ seconds ∈ bl.seconds,
    seconds * 1000000 ≤ now - g.game.levelStartedAt

instance (g : GameTables) (now : Int) : Decidable (g.LevelOver now) :=
  inferInstanceAs (Decidable (∃ bl ∈ g.snapshot.blindLevel g.game.currentBlindLevel, _))

/-- The command settles a round that was not completed before, at the end of the time of a level
that is not the highest one. -/
def GameCommand.EndsLevel (g : GameTables) : GameCommand → Prop
  | .round roundId c clock =>
    (∃ s ∈ (GameCommand.round roundId c clock).settlement? g, hasRoundCompletedEntry s.1 = false) ∧
      g.LevelOver (clock 0) ∧ g.game.currentBlindLevel < g.snapshot.maxLevel
  | _ => False

instance (g : GameTables) : DecidablePred (GameCommand.EndsLevel g)
  | .round _ _ _ => inferInstanceAs (Decidable ((∃ s ∈ _, _) ∧ _ ∧ _))
  | .startRound _ _ _ | .advanceBlinds _ | .pauseTable | .resumeTable | .recordHandCompleted _
  | .endGame _ => .isFalse id

/-- A level of the given number is configured. -/
def RoomConfig.HasLevel (config : RoomConfig) (levelNum : Int) : Prop :=
  ∃ bl ∈ config.blindLevels, bl.level = levelNum

instance (config : RoomConfig) (levelNum : Int) : Decidable (config.HasLevel levelNum) :=
  inferInstanceAs (Decidable (∃ bl ∈ config.blindLevels, _))

variable {g g' : GameTables} {r r' : RoundTables} {clock : Clock} {config : RoomConfig}

/-! ## The levels -/

/-- A lookup of a level fails exactly when it is not configured. -/
lemma blindLevel_isSome_iff {levelNum : Int} :
    (config.blindLevel levelNum).isSome ↔ config.HasLevel levelNum := by
  simp [RoomConfig.blindLevel, RoomConfig.HasLevel, List.find?_isSome]

/-- The level of a game is configured exactly when there is one of its number: the next round is
then played on it. -/
lemma levelConfigured_iff : LevelConfigured g ↔ g.snapshot.HasLevel g.game.currentBlindLevel := by
  constructor
  · rintro ⟨bl, hbl, hlevel, -⟩
    exact ⟨bl, hbl, hlevel⟩
  · intro h
    obtain ⟨bl, hfind⟩ := Option.isSome_iff_exists.mp (blindLevel_isSome_iff.mpr h)
    refine ⟨bl, List.mem_of_find?_eq_some hfind, by simpa using List.find?_some hfind, ?_⟩
    rw [GameTables.roundLevel, hfind, Option.some_or]

/-- The snapshot of a room has the levels of the room. -/
lemma hasLevel_saveRoomSnapshot {levelNum : Int} :
    (saveRoomSnapshot config).HasLevel levelNum ↔ config.HasLevel levelNum := by
  simp [RoomConfig.HasLevel, saveRoomSnapshot]

/-! ## One command -/

/-- The blind clock moves on exactly when the time of the level is over. -/
lemma shouldAdvance_iff (g : GameTables) (hands now : Int) :
    (BlindClock.mk g.game.currentBlindLevel g.game.levelStartedAt hands).shouldAdvance
      ((g.snapshot.blindLevel g.game.currentBlindLevel).bind (·.seconds)) now = true ↔
        g.LevelOver now := by
  unfold BlindClock.shouldAdvance GameTables.LevelOver
  cases g.snapshot.blindLevel g.game.currentBlindLevel with
  | none => simp
  | some bl =>
    cases hseconds : bl.seconds with
    | none => simp [hseconds]
    | some seconds => simp [hseconds]

/-- A counted hand raises the level by one when the time of the level is over and it is not the
highest one. -/
lemma applyHandCompletion_level (g : GameTables) (clock : Clock) :
    (applyHandCompletion g.game g.snapshot true clock).currentBlindLevel =
      if g.LevelOver (clock 0) ∧ g.game.currentBlindLevel < g.snapshot.maxLevel then
        g.game.currentBlindLevel + 1
      else g.game.currentBlindLevel := by
  simp only [applyHandCompletion, BlindClock.recordHand, Bool.true_and, if_true,
    Bool.and_eq_true, shouldAdvance_iff, decide_eq_true_eq]
  split <;> rfl

/-- The level after an accepted settlement. -/
lemma settled_level (g : GameTables) (r r' : RoundTables) (clock : Clock) :
    (g.settled r r' clock).game.currentBlindLevel =
      if hasRoundCompletedEntry r = false ∧ g.LevelOver (clock 0) ∧
          g.game.currentBlindLevel < g.snapshot.maxLevel then g.game.currentBlindLevel + 1
      else g.game.currentBlindLevel := by
  cases hentry : hasRoundCompletedEntry r with
  | true => simp [GameTables.settled, hentry]
  | false =>
    simp only [GameTables.settled, hentry, Game.moveOn_counters, HandCompletionResult.write,
      applyHandCompletion_level, true_and, Bool.false_eq_true, if_false]

/-- An accepted command on the table plays on a configured level. -/
lemma LevelConfigured.table (hcount : CountInvariant g) (h : LevelConfigured g) {c : GameCommand}
    {game : Game} (hstep : TableStep g c game) : LevelConfigured { g with game := game } := by
  cases hstep with
  | blindsAdvanced hstatus hnext => exact levelConfigured_iff.mpr (blindLevel_isSome_iff.mp hnext)
  | paused | resumed | ended => exact h
  | handRecorded =>
    rw [hcount.recorded]
    exact h

/-- An accepted command keeps the level configured exactly when it does not run into a gap between
the levels. -/
lemma LevelConfigured.step_iff (hcount : CountInvariant g) (h : LevelConfigured g) {c : GameCommand}
    (hok : gameMachine.step g c = .ok g') :
    LevelConfigured g' ↔
      (c.EndsLevel g → g.snapshot.HasLevel (g.game.currentBlindLevel + 1)) := by
  obtain ⟨hstep, -⟩ := game_step_cases hok
  cases hstep with
  | started => exact iff_of_true h False.elim
  | @acted roundId c clock r r' hfind hc hstep =>
    refine iff_of_true h fun hends => ?_
    obtain ⟨⟨s, hs, -⟩, -⟩ := hends
    simp [GameCommand.settlement?, hfind, hc] at hs
  | @settled roundId c clock r r' data ids hc hset =>
    have hends : (GameCommand.round roundId c clock).EndsLevel g ↔
      hasRoundCompletedEntry r = false ∧
        g.LevelOver (clock 0) ∧ g.game.currentBlindLevel < g.snapshot.maxLevel := by
      simp [GameCommand.EndsLevel, hc]
    have hlevels : ∀ levelNum, (g.settled r r' clock).snapshot.HasLevel levelNum ↔
        g.snapshot.HasLevel levelNum := fun _ => Iff.rfl
    rw [levelConfigured_iff, hlevels, settled_level, hends]
    split
    · next hraise => exact ⟨fun hnext _ => hnext, fun hnext => hnext hraise⟩
    · next hstay => exact iff_of_true (levelConfigured_iff.mp h) fun hraise => absurd hraise hstay
  | @administered c game hc hstatus =>
    refine iff_of_true (h.table hcount (tableStep_of_ok hc hok)) fun hends => ?_
    cases c with
    | round => cases hc
    | startRound | advanceBlinds | pauseTable | resumeTable | recordHandCompleted | endGame =>
      cases hends

/-! ## Every run -/

/-- **When the blind level is a configured one.** In every run of commands on a game started from a
room, every state is on a level of the blind structure, and the next round is played on this level,
exactly when there is a level `1` and no settlement that counts its hand after the time of a level
below the highest one finds the next number missing. -/
theorem level_configured_iff {existing : Option Game} {roomConfig : RoomConfig}
    {activated : Except Rejection Unit} {gameId : String} {now : Int} {g₀ : GameTables}
    (hstart : startGame existing roomConfig activated gameId now = .ok g₀) (cs : List GameCommand) :
    (∀ k, LevelConfigured (gameMachine.run g₀ (cs.take k))) ↔
      roomConfig.HasLevel 1 ∧ ∀ t ∈ gameMachine.trace g₀ cs, t.command.EndsLevel t.before →
        t.before.snapshot.HasLevel (t.before.game.currentBlindLevel + 1) := by
  have hnew := gameStarted_of_startGame hstart
  have hfirst : LevelConfigured g₀ ↔ roomConfig.HasLevel 1 := by
    rw [levelConfigured_iff, hnew.level, hnew.snapshot, hasLevel_saveRoomSnapshot]
  by_cases h₀ : LevelConfigured g₀
  · rw [and_iff_right (hfirst.mp h₀)]
    exact Machine.forall_run_take_iff (J := CountInvariant)
      (P := fun t : Transition GameTables GameCommand => t.command.EndsLevel t.before →
        t.before.snapshot.HasLevel (t.before.game.currentBlindLevel + 1))
      (fun _ _ _ h hok => h.of_ok hok) (fun _ _ _ hcount h hok => h.step_iff hcount hok)
      (countInvariant_of_startGame hstart) h₀ cs
  · exact iff_of_false (fun hall => h₀ (hall 0)) fun hboth => h₀ (hfirst.mpr hboth.1)

/-- The only level of a room stays the current one after its time. -/
theorem level_configured_iff_headsUp :
    LevelConfigured (gameMachine.run headsUpGame ((foldedGame foldedHandPayout).take 3)) :=
  (level_configured_iff
    (show startGame none headsUpRoom.toRoomConfig (.ok ()) "game" 0 = .ok headsUpGame by decide)
    (foldedGame foldedHandPayout)).mpr (by decide) 3

/-- The heads-up room with two blind levels and no level between them. -/
def gappedRoom : RoomDetail :=
  { headsUpRoom with
    blindLevels := [⟨1, 1, 2, 0, some 10⟩, ⟨3, 4, 8, 0, some 10⟩]
    smallBlind_pos := by decide
    bigBlind_pos := by decide }

/-- A hand that is settled when the first level is over. -/
def lateHand : List GameCommand :=
  [.startRound controllerStart "round" headsUpIds,
    .round "round" (.resolveHand foldedHandPayout (named ["p1", "p2", "done"])) fun _ => 600000000]

/-- A settlement raises the level to a number that is not configured, and the next round is played
on the first level. -/
theorem level_raised_into_gap :
    ¬ ∀ (existing : Option Game) (room : RoomDetail) (activated : Except Rejection Unit)
      (gameId : String) (now : Int) (g₀ : GameTables),
      startGame existing room.toRoomConfig activated gameId now = .ok g₀ →
      ∀ cs : List GameCommand, LevelConfigured (gameMachine.run g₀ cs) := by
  intro h
  have hconfigured := h none gappedRoom (.ok ()) "game" 0
    { headsUpGame with snapshot := gappedRoom.toRoomConfig } (by decide) lateHand
  exact absurd hconfigured (by decide)

end PokerRoom
