import PokerRoom.Game.BlindLevels

/-!
# The hands of a blind level

A completed hand is recorded on the blind clock, which starts to count anew when it moves on to the
next level.  `advance_blinds` raises the level without the clock and leaves the counter of the hands
as it is.  `level_counter_iff` says that the counter is the number of hands counted on the current
level exactly when the level is only ever raised this way before a hand of it is counted.
-/

namespace PokerRoom

open Foundation

/-! ## Definitions -/

/-- Record an accepted command: a level that is new starts with no hands, and otherwise a hand that
is counted is one more. -/
def recordHands (g : GameTables) (_ : GameCommand) (g' : GameTables) (n : Int) : Int :=
  if g'.game.currentBlindLevel ≠ g.game.currentBlindLevel then 0
  else if g.game.handsPlayed < g'.game.handsPlayed then n + 1
  else n

/-- The hands counted since the blind level last changed, after a run of commands on a game. -/
def handsOnLevel (g₀ : GameTables) (cs : List GameCommand) : Int :=
  ((gameMachine.instrument recordHands).run (g₀, 0) cs).2

/-- The command raises the blind level by hand. -/
def GameCommand.AdvancesBlinds : GameCommand → Prop
  | .advanceBlinds _ => True
  | _ => False

instance : DecidablePred GameCommand.AdvancesBlinds
  | .advanceBlinds _ => .isTrue trivial
  | .startRound _ _ _ | .round _ _ _ | .pauseTable | .resumeTable | .recordHandCompleted _
  | .endGame _ => .isFalse id

variable {g g' : GameTables} {r r' : RoundTables} {clock : Clock} {c : GameCommand} {n : Int}

/-! ## One command -/

/-- What the completion of a hand leaves in a game. -/
structure Completes (g : GameTables) (counted : Bool) (clock : Clock) (g' : GameTables) : Prop where
  /-- The level. -/
  level : g'.game.currentBlindLevel =
    (applyHandCompletion g.game g.snapshot counted clock).currentBlindLevel
  /-- The hands played. -/
  handsPlayed : g'.game.handsPlayed =
    (applyHandCompletion g.game g.snapshot counted clock).handsPlayed
  /-- The hands played on the level. -/
  handsAtLevel : g'.game.handsAtCurrentLevel =
    (applyHandCompletion g.game g.snapshot counted clock).handsAtCurrentLevel

/-- The completion of a hand keeps the counter right: it counts no hand of a level it moves on
to. -/
lemma Completes.recordHands {counted : Bool} (h : Completes g counted clock g') :
    g'.game.handsAtCurrentLevel = PokerRoom.recordHands g c g' g.game.handsAtCurrentLevel := by
  rw [PokerRoom.recordHands, h.level, h.handsPlayed, h.handsAtLevel]
  cases counted with
  | false => simp [applyHandCompletion]
  | true =>
    simp only [applyHandCompletion, BlindClock.recordHand, if_true, Bool.true_and]
    split
    · simp [BlindClock.advance]
    · simp

/-- A settlement completes a hand, and counts it unless the round was completed before. -/
lemma completes_settled (g : GameTables) (r r' : RoundTables) (clock : Clock) :
    Completes g (!hasRoundCompletedEntry r) clock (g.settled r r' clock) := by
  cases hentry : hasRoundCompletedEntry r with
  | true => constructor <;> simp [GameTables.settled, hentry, applyHandCompletion]
  | false => constructor <;> simp [GameTables.settled, hentry, HandCompletionResult.write]

/-- An accepted command keeps the counter right exactly when it does not raise the level by hand
after a hand of the level was counted. -/
lemma recordHands_iff (hok : gameMachine.step g c = .ok g') :
    g'.game.handsAtCurrentLevel = recordHands g c g' g.game.handsAtCurrentLevel ↔
      (c.AdvancesBlinds → g.game.handsAtCurrentLevel = 0) := by
  cases (game_step_cases hok).1 with
  | started | acted => exact iff_of_true (by simp [recordHands, GameTables.putRound]) False.elim
  | settled => exact iff_of_true (completes_settled g _ _ _).recordHands False.elim
  | administered hc _ =>
    cases tableStep_of_ok hc hok with
    | blindsAdvanced => simp [recordHands, GameCommand.AdvancesBlinds]
    | paused | resumed | ended => exact iff_of_true (by simp [recordHands]) False.elim
    | handRecorded => exact iff_of_true (Completes.recordHands ⟨rfl, rfl, rfl⟩) False.elim

/-! ## Every run -/

/-- A new game has counted no hand of its level. -/
lemma handsAtLevel_of_startGame {existing : Option Game} {roomConfig : RoomConfig}
    {activated : Except Rejection Unit} {gameId : String} {now : Int}
    (h : startGame existing roomConfig activated gameId now = .ok g) :
    g.game.handsAtCurrentLevel = 0 := by
  simp only [startGame, bind_eq_ok_iff] at h
  obtain ⟨-, -, -, -, -, -, h⟩ := h
  split at h
  · cases h
  · simp only [bind_eq_ok_iff, GameTables.flush_eq_ok_iff] at h
    obtain ⟨-, -, -, rfl⟩ := h
    rfl

/-- **When the counter is that of the level.** In every run of commands on a game started from a
room, after every command `hands_at_current_level` is the number of hands counted since the blind
level last changed, exactly when every accepted `advance_blinds` finds it at zero. -/
theorem level_counter_iff {existing : Option Game} {roomConfig : RoomConfig}
    {activated : Except Rejection Unit} {gameId : String} {now : Int} {g₀ : GameTables}
    (hstart : startGame existing roomConfig activated gameId now = .ok g₀) (cs : List GameCommand) :
    (∀ k, (gameMachine.run g₀ (cs.take k)).game.handsAtCurrentLevel = handsOnLevel g₀ (cs.take k)) ↔
      ∀ t ∈ gameMachine.trace g₀ cs, t.command.AdvancesBlinds →
        t.before.game.handsAtCurrentLevel = 0 := by
  exact Machine.instrument_run_take_iff (M := gameMachine) recordHands
    (I := fun g n => g.game.handsAtCurrentLevel = n) (J := fun _ => True)
    (P := fun t => t.command.AdvancesBlinds → t.before.game.handsAtCurrentLevel = 0)
    (fun _ _ _ _ _ => trivial)
    (fun g n c g' _ hn hok => by rw [← hn]; exact recordHands_iff hok)
    trivial (handsAtLevel_of_startGame hstart) cs

/-- The heads-up room with a second blind level. -/
def twoLevelRoom : RoomDetail :=
  { headsUpRoom with
    blindLevels := [⟨1, 1, 2, 0, some 10⟩, ⟨2, 2, 4, 0, some 10⟩]
    smallBlind_pos := by decide
    bigBlind_pos := by decide }

/-- The game that starts in it. -/
def twoLevelGame : GameTables := { headsUpGame with snapshot := twoLevelRoom.toRoomConfig }

/-- A hand that is folded after the level is raised. -/
def raisedFirst : List GameCommand := .advanceBlinds 0 :: foldedGame foldedHandPayout

/-- A level that is raised by hand before the first hand starts with no hands, and the folded hand
is its first. -/
theorem level_counter_iff_twoLevels :
    (gameMachine.run twoLevelGame raisedFirst).game.handsAtCurrentLevel =
      handsOnLevel twoLevelGame raisedFirst :=
  (level_counter_iff
    (show startGame none twoLevelRoom.toRoomConfig (.ok ()) "game" 0 = .ok twoLevelGame by decide)
    raisedFirst).mpr (by decide) 4

/-- A level that is raised by hand after the folded hand starts with the hand of the level
before. -/
theorem advance_blinds_keeps_counter :
    ¬ ∀ (existing : Option Game) (roomConfig : RoomConfig) (activated : Except Rejection Unit)
      (gameId : String) (now : Int) (g₀ : GameTables),
      startGame existing roomConfig activated gameId now = .ok g₀ → ∀ cs : List GameCommand,
      (gameMachine.run g₀ cs).game.handsAtCurrentLevel = handsOnLevel g₀ cs := by
  intro h
  have hcount := h none twoLevelRoom.toRoomConfig (.ok ()) "game" 0 twoLevelGame (by decide)
    (foldedGame foldedHandPayout ++ [.advanceBlinds 0])
  exact absurd hcount (by decide)

end PokerRoom
